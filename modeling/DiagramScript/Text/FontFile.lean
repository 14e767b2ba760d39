import DiagramScript.Text.LetterCase

/-!
# Choosing a font file

A font family is looked up by name among the files of some directories.  Names are
compared by their letters and digits alone.

* `fontKey` — the letters and digits of a name, in small letters.
* `fileStem` — the name of a file without its directory and its last suffix.
* `FontDirectory` — a directory: it may be missing, and reading it may fail.
* `offerFont` — what one file changes about the best file so far; `FontDirectory.search` does so
  for all files of a directory, and `searchFont` for all directories.
* `FontCache` — what was found is remembered, and so is that nothing was found:
  `FontCache.locate`.
-/

namespace DiagramScript

/-! ## Names -/

/-- Whether a character counts in the name of a font: a letter or digit, where letters without
regard to case include the dotted and dotless i, the long s and the Kelvin sign. -/
def isFontChar (c : Char) : Bool :=
  c.isAlphanum || c = '\u0130' || c = '\u0131' || c = '\u017F' || c = '\u212A'

/-- The letters and digits of a name, in small letters. -/
def fontKey (name : List Char) : List Char := lowerChars (name.filter isFontChar)

/-- The last component of a path. -/
def lastComponent (path : List Char) : List Char :=
  (path.reverse.takeWhile (· ≠ '/')).reverse

/-- A file name without its last suffix; a dot at its start or end begins no suffix. -/
def withoutSuffix (name : List Char) : List Char :=
  let suffix := name.reverse.takeWhile (· ≠ '.')
  let stem := name.take (name.length - suffix.length - 1)
  if suffix.length < name.length ∧ !suffix.isEmpty ∧ !stem.isEmpty then stem else name

/-- The name of a file without its directory and its last suffix. -/
def fileStem (path : List Char) : List Char := withoutSuffix (lastComponent path)

/-! ## Single files -/

/-- How well a file fits a family, where each name is given by its letters and digits; less is
better.  It has the name of the family, or its name starts with that. -/
def fontScore? (family file : List Char) : Option Nat :=
  if file = family then some 0 else if family.isPrefixOf file then some 1 else none

/-- The best file so far, with its score, if any file fits. -/
abbrev FontMatch := Option (Nat × String)

/-- The best file after one more, which must fit better than the one so far. -/
def offerFont (family : List Char) (best : FontMatch) (path : String) : FontMatch :=
  match fontScore? family (fontKey (fileStem path.toList)), best with
  | none, _ => best
  | some score, none => some (score, path)
  | some score, some (least, _) => if score < least then some (score, path) else best

/-- Goes through some files, which does not fail by itself. -/
def offerFonts (family : List Char) (paths : List String) :
    ExceptT Unit (StateM FontMatch) Unit :=
  paths.forM fun path => modify (offerFont family · path)

/-! ## Directories -/

/-- A directory that may hold fonts. -/
inductive FontDirectory where
  /-- It does not exist. -/
  | missing
  /-- It holds these font files. -/
  | listed (paths : List String)
  /-- Reading it fails after these font files. -/
  | interrupted (paths : List String)
  deriving Repr

namespace FontDirectory

/-- The font files found in a directory. -/
def paths : FontDirectory → List String
  | missing => []
  | listed ps => ps
  | interrupted ps => ps

/-- Reads a directory file by file, and fails where reading it does. -/
def read (family : List Char) : FontDirectory → ExceptT Unit (StateM FontMatch) Unit
  | missing => pure ()
  | listed ps => offerFonts family ps
  | interrupted ps => do
    offerFonts family ps
    throw ()

/-- The best file after a directory was read.  A failure ends that directory only, and what was
found before it counts. -/
def search (family : List Char) (dir : FontDirectory) (best : FontMatch) : FontMatch :=
  ((dir.read family).run.run best).run.2

end FontDirectory

/-- The file chosen among the files of some directories. -/
def searchFont (dirs : List FontDirectory) (family : String) : Option String :=
  (dirs.foldl (fun best dir => dir.search (fontKey family.toList) best) none).map Prod.snd

/-! ## Remembering -/

/-- What was found for the families looked up so far, by the small forms of their names. -/
abbrev FontCache := List (String × Option String)

/-- The file for a family, and what is remembered afterwards. -/
def FontCache.locate (cache : FontCache) (dirs : List FontDirectory) (family : String) :
    Option String × FontCache :=
  match cache.lookup (smallForm family) with
  | some found => (found, cache)
  | none =>
    let found := searchFont dirs family
    (found, (smallForm family, found) :: cache)

end DiagramScript
