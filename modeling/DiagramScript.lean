import DiagramScript.Color.Names
import DiagramScript.Color.Paint
import DiagramScript.CommandLine.Arguments
import DiagramScript.CommandLine.FilePath
import DiagramScript.CommandLine.FileTree
import DiagramScript.CommandLine.Job
import DiagramScript.CommandLine.QuickReference
import DiagramScript.CommandLine.Report
import DiagramScript.CommandLine.Run
import DiagramScript.Diagnostic
import DiagramScript.Diagram
import DiagramScript.Draft
import DiagramScript.Evaluation
import DiagramScript.Execution
import DiagramScript.Geometry.Anchor
import DiagramScript.Geometry.Box
import DiagramScript.Geometry.Heading
import DiagramScript.Geometry.Outline
import DiagramScript.Geometry.Point
import DiagramScript.Json.Basic
import DiagramScript.Json.Printer
import DiagramScript.Layout
import DiagramScript.LengthUnit
import DiagramScript.Main
import DiagramScript.Number.Arith
import DiagramScript.Number.Binary64
import DiagramScript.Number.Decimal
import DiagramScript.Number.Marked
import DiagramScript.Number.Rounding
import DiagramScript.Number.Typed
import DiagramScript.Object.Basic
import DiagramScript.Object.Class
import DiagramScript.Object.Style
import DiagramScript.Path
import DiagramScript.Placement
import DiagramScript.Proofs.Agreement
import DiagramScript.Proofs.AnchoredObjects
import DiagramScript.Proofs.ArgumentTexts
import DiagramScript.Proofs.AssignedVariables
import DiagramScript.Proofs.BoundaryPoints
import DiagramScript.Proofs.BoxHulls
import DiagramScript.Proofs.BracketedDrawing
import DiagramScript.Proofs.BracketedText
import DiagramScript.Proofs.BuiltinVariables
import DiagramScript.Proofs.ClauseEffects
import DiagramScript.Proofs.ClosedPaths
import DiagramScript.Proofs.CompleteExpansion
import DiagramScript.Proofs.Concatenation
import DiagramScript.Proofs.Continuation
import DiagramScript.Proofs.ContraryMarks
import DiagramScript.Proofs.CoveringCanvas
import DiagramScript.Proofs.Declarations
import DiagramScript.Proofs.DeclaredObjects
import DiagramScript.Proofs.DeclaredTexts
import DiagramScript.Proofs.DocumentTree
import DiagramScript.Proofs.DraftClauses
import DiagramScript.Proofs.ElementNames
import DiagramScript.Proofs.Encapsulation
import DiagramScript.Proofs.Enclosing
import DiagramScript.Proofs.EscapingFaults
import DiagramScript.Proofs.EuclideanNumbers
import DiagramScript.Proofs.EvaluationFailures
import DiagramScript.Proofs.Evolution
import DiagramScript.Proofs.ExactNumbers
import DiagramScript.Proofs.ExpandedText
import DiagramScript.Proofs.ExpansionStretches
import DiagramScript.Proofs.ExpressionWalks
import DiagramScript.Proofs.Extents
import DiagramScript.Proofs.FailedStatements
import DiagramScript.Proofs.FileNames
import DiagramScript.Proofs.FinishedObjects
import DiagramScript.Proofs.FiniteNumbers
import DiagramScript.Proofs.FittingNodes
import DiagramScript.Proofs.Forest
import DiagramScript.Proofs.FoundObjects
import DiagramScript.Proofs.GroupMoves
import DiagramScript.Proofs.Growth
import DiagramScript.Proofs.GuestObjects
import DiagramScript.Proofs.KeptInputs
import DiagramScript.Proofs.Labels
import DiagramScript.Proofs.LaterStatements
import DiagramScript.Proofs.LaterViews
import DiagramScript.Proofs.LeadingNumbers
import DiagramScript.Proofs.LeastBoxes
import DiagramScript.Proofs.LexicalScope
import DiagramScript.Proofs.LineByLine
import DiagramScript.Proofs.LineMarks
import DiagramScript.Proofs.LocatedFonts
import DiagramScript.Proofs.MachineIntegers
import DiagramScript.Proofs.MachineOrder
import DiagramScript.Proofs.MachineRanks
import DiagramScript.Proofs.MachineRounding
import DiagramScript.Proofs.MachineValues
import DiagramScript.Proofs.MeasuredObjects
import DiagramScript.Proofs.MirroredDrafts
import DiagramScript.Proofs.MirroredRegistries
import DiagramScript.Proofs.MirroredRuns
import DiagramScript.Proofs.MirroredViews
import DiagramScript.Proofs.MistakePlaces
import DiagramScript.Proofs.MovedFigures
import DiagramScript.Proofs.NestedRuns
import DiagramScript.Proofs.Nesting
import DiagramScript.Proofs.NodeRuns
import DiagramScript.Proofs.NodeValues
import DiagramScript.Proofs.Nodes
import DiagramScript.Proofs.ObjectCounts
import DiagramScript.Proofs.ObjectForest
import DiagramScript.Proofs.OptionalOperands
import DiagramScript.Proofs.OrderedNumbers
import DiagramScript.Proofs.OrdinaryFailures
import DiagramScript.Proofs.Outlines
import DiagramScript.Proofs.PathPoints
import DiagramScript.Proofs.PathVertices
import DiagramScript.Proofs.PenMoves
import DiagramScript.Proofs.PlacedDrafts
import DiagramScript.Proofs.PrintedNumbers
import DiagramScript.Proofs.QuarterTurns
import DiagramScript.Proofs.QuotedStrings
import DiagramScript.Proofs.RayExits
import DiagramScript.Proofs.Readable
import DiagramScript.Proofs.ReadingSteps
import DiagramScript.Proofs.RelocatedRuns
import DiagramScript.Proofs.Relocation
import DiagramScript.Proofs.Remainder
import DiagramScript.Proofs.Renaming
import DiagramScript.Proofs.Rereading
import DiagramScript.Proofs.RespelledClauses
import DiagramScript.Proofs.RespelledPositions
import DiagramScript.Proofs.Respelling
import DiagramScript.Proofs.RoundObjects
import DiagramScript.Proofs.Routes
import DiagramScript.Proofs.RunCounts
import DiagramScript.Proofs.RunEvolution
import DiagramScript.Proofs.RunFailures
import DiagramScript.Proofs.RunOutcomes
import DiagramScript.Proofs.RunStages
import DiagramScript.Proofs.RunSteps
import DiagramScript.Proofs.ScanSteps
import DiagramScript.Proofs.ScriptWalks
import DiagramScript.Proofs.ShortNumerals
import DiagramScript.Proofs.Stacking
import DiagramScript.Proofs.Standing
import DiagramScript.Proofs.StatementContinuation
import DiagramScript.Proofs.StatementSteps
import DiagramScript.Proofs.StatementWalks
import DiagramScript.Proofs.StoredPaints
import DiagramScript.Proofs.TextOffsets
import DiagramScript.Proofs.TextOrder
import DiagramScript.Proofs.TokenEnds
import DiagramScript.Proofs.TokenLayout
import DiagramScript.Proofs.TokenPlaces
import DiagramScript.Proofs.TokenWalks
import DiagramScript.Proofs.TrimmedPaths
import DiagramScript.Proofs.VisitedObjects
import DiagramScript.Proofs.Writing
import DiagramScript.Registry
import DiagramScript.Script.Expression
import DiagramScript.Script.Program
import DiagramScript.Script.Reading
import DiagramScript.Script.ReadingExpressions
import DiagramScript.Script.Statement
import DiagramScript.Svg.Canvas
import DiagramScript.Svg.Caption
import DiagramScript.Svg.Document
import DiagramScript.Svg.Markup
import DiagramScript.Svg.Shape
import DiagramScript.Text.Blank
import DiagramScript.Text.DecimalDigit
import DiagramScript.Text.FontFile
import DiagramScript.Text.LetterCase
import DiagramScript.Text.Lowercase
import DiagramScript.Text.Measure
import DiagramScript.Text.Printable
import DiagramScript.Text.Quoted
import DiagramScript.Token.Basic
import DiagramScript.Token.Expansion
import DiagramScript.Token.Scan
