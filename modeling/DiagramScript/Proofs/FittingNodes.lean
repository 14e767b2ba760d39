import Mathlib
import DiagramScript.Number.Marked
import DiagramScript.Proofs.NodeRuns
import DiagramScript.Proofs.OrdinaryFailures
import DiagramScript.Proofs.ScanSteps

/-!
# The trees of a script can be run

A tree of nodes need not make sense, and a run that looks at its nodes stops where it does not.
The trees of a script do make sense: wherever a run looks, it finds a node of the kind that it uses
there and whatever else it asks for.

* `NodeFailure.IsOrdinary` — the ways of failing that are left.
* `Drawing.Reachable.runNodes_fit` — the trees of a script fit together, and running them, from
  whatever drawing a run has come to, fails in these ways only.
-/

namespace DiagramScript

/-- Whether a failure is one of a script: no node is of a wrong kind, nothing is missing in a table,
no variable that is always there is missing, and no path. -/
def NodeFailure.IsOrdinary : NodeFailure → Prop
  | .failure f => f.IsOrdinary
  | .misfit _ => False

theorem NodeFailure.isOrdinary_of_lifting {α : Type} {r : Except Failure α}
    (h : FailsOrdinarily r) {e : NodeFailure} (he : lifting r = .error e) : e.IsOrdinary := by
  cases r with
  | ok x => cases he
  | error f =>
    cases he
    exact h.error f rfl

theorem StatementNode.exists_of_ofSource {colors : ColorTable} {source : String}
    {nodes : List StatementNode} (h : StatementNode.ofSource colors source = .ok nodes) :
    ∃ ss, Program.ofSource colors source = .ok ss ∧ statementNodes ss = nodes := by
  unfold StatementNode.ofSource at h
  cases hs : Program.ofSource colors source with
  | error e =>
    rw [hs] at h
    cases h
  | ok ss =>
    rw [hs] at h
    exact ⟨ss, rfl, Except.ok.inj h⟩

variable {K : Type} [Arith K] {t : Resources K} {d : Drawing K}

namespace Drawing.Reachable

/-- The trees of a script fit together: every part of them is of the kind that is used there.  Run
from any drawing that a run can come to, they do what the script does, and fail only as a script
may.  So no node is used as a number, a point or a reference that is none, no function, clause or
anchor is unknown, and no variable that is always there and no path is missing. -/
theorem runNodes_fit (h : d.Reachable t) {source : String} {nodes : List StatementNode}
    (hs : StatementNode.ofSource t.colors source = .ok nodes) :
    statementsFit nodes = true ∧
      (∃ ss, Program.ofSource t.colors source = .ok ss ∧
        runNodes t d nodes = (DiagramScript.run t d ss).lifted) ∧
      ∀ e, (runNodes t d nodes).1 = .error e → e.IsOrdinary := by
  obtain ⟨ss, read, rfl⟩ := StatementNode.exists_of_ofSource hs
  refine ⟨statementsFit_nodes ss, ⟨ss, read, runNodes_nodes t d ss⟩, fun e he => ?_⟩
  rw [runNodes_nodes] at he
  exact NodeFailure.isOrdinary_of_lifting (h.run_ordinary ss) he

/-- A path from an anchor of an object, in stretches; the length of the second is not known. -/
theorem runNodes_fit_path : ∃ (d : Drawing MachineNumber) (nodes : List StatementNode),
    d.Reachable Resources.standard ∧
      StatementNode.ofSource .standard "line from A.e right 50% then up $x" = .ok nodes ∧
      (runNodes Resources.standard d nodes).1 =
        .error (.failure (.mistake ⟨.eval (.unknownVariable "$x"), some ⟨1, 33⟩⟩)) ∧
      statementsFit nodes = true ∧
      (∃ ss, Program.ofSource .standard "line from A.e right 50% then up $x" = .ok ss ∧
        runNodes Resources.standard d nodes = (DiagramScript.run Resources.standard d ss).lifted) ∧
      ∀ e, (runNodes Resources.standard d nodes).1 = .error e → e.IsOrdinary := by
  let east : Anchor := .compass .e
  let tokens : List Token := [⟨.word, "line", ⟨1, 1⟩⟩, ⟨.word, "from", ⟨1, 6⟩⟩,
    ⟨.label, "A", ⟨1, 11⟩⟩, ⟨.edge east, ".e", ⟨1, 12⟩⟩, ⟨.word, "right", ⟨1, 15⟩⟩,
    ⟨.percent ⟨50, 0⟩, "50%", ⟨1, 21⟩⟩, ⟨.word, "then", ⟨1, 25⟩⟩, ⟨.word, "up", ⟨1, 30⟩⟩,
    ⟨.sigil, "$x", ⟨1, 33⟩⟩, ⟨.eof, "", ⟨1, 35⟩⟩]
  let ss : List Statement := [.object ⟨1, 1⟩ .line none [
    ⟨⟨1, 6⟩, .start (.object ⟨1, 11⟩ (.select ⟨1, 11⟩ (.label "A")) (some east))⟩,
    ⟨⟨1, 15⟩, .direction .right (some (.percent ⟨1, 21⟩ ⟨50, 0⟩))⟩, ⟨⟨1, 25⟩, .next⟩,
    ⟨⟨1, 30⟩, .direction .up (some (.var ⟨1, 33⟩ "$x"))⟩]]
  have scanned : tokenize .standard "line from A.e right 50% then up $x" = .ok tokens := by
    rw [tokenize_eq_steps]
    decide +kernel
  have expanded : expandTokens .standard tokens = .ok tokens :=
    expandTokens_of_no_define _ (by decide)
  have statements : Program.ofTokens .standard tokens = .ok ss := by
    cbv
  have read : StatementNode.ofSource .standard "line from A.e right 50% then up $x" =
      .ok (statementNodes ss) := by
    rw [StatementNode.ofSource, Program.ofSource, scanned, ok_bind, expanded, ok_bind, statements]
    rfl
  let before : List Statement := [.object ⟨1, 1⟩ .box (some "A") []]
  let d : Drawing MachineNumber := (DiagramScript.run Resources.standard Drawing.initial before).2
  have reached : d.Reachable Resources.standard := Reachable.initial.run before
  have fails : (DiagramScript.run Resources.standard d ss).1 =
      .error (.mistake ⟨.eval (.unknownVariable "$x"), some ⟨1, 33⟩⟩) := by
    decide +kernel
  refine ⟨d, statementNodes ss, reached, read, ?_, reached.runNodes_fit read⟩
  rw [runNodes_nodes, Outcome.lifted, fails]
  rfl

end Drawing.Reachable

end DiagramScript
