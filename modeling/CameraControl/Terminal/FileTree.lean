/-
  Trees of files and the paths that lead through them.

  A directory is left behind when one of its entries is entered, and two dots lead back to it. A
  place therefore keeps the directories above it. `goAlong?_append` says that a path may be walked
  in pieces.
-/

namespace CameraControl.Terminal

/-- A file with its text, or a directory with its entries by name. -/
inductive FileTree where
  | file (text : String)
  | directory (entries : List (String × FileTree))

namespace FileTree

/-- The text of a file. -/
def text? : FileTree → Option String
  | .file text => some text
  | .directory _ => none

/-- A place in a tree. -/
structure Place where
  /-- The part of the tree that begins at the place. -/
  here : FileTree
  /-- The directories above the place, the nearest first. -/
  above : List FileTree

namespace Place

/-- The place that a part of a path leads to. Only a directory can be left or stayed in, and there
    is nothing above the topmost one. -/
def go? (p : Place) (part : String) : Option Place :=
  match p.here with
  | .file _ => none
  | .directory entries =>
    if part = "" ∨ part = "." then some p
    else if part = ".." then
      match p.above with
      | [] => some p
      | parent :: above => some ⟨parent, above⟩
    else (entries.lookup part).map fun entry => ⟨entry, p.here :: p.above⟩

/-- The place that the parts of a path lead to, one after the other. -/
def goAlong? (p : Place) : List String → Option Place
  | [] => some p
  | part :: parts => (p.go? part).bind fun next => next.goAlong? parts

/-! ## Laws -/

/-- No path leads through a file. -/
theorem go?_file (text : String) (above : List FileTree) (part : String) :
    (⟨.file text, above⟩ : Place).go? part = none := rfl

/-- An entry that was entered is left by two dots. -/
theorem go?_parent (entries : List (String × FileTree)) (parent : FileTree)
    (above : List FileTree) :
    (⟨.directory entries, parent :: above⟩ : Place).go? ".." = some ⟨parent, above⟩ := by
  simp [go?]

theorem goAlong?_append (p : Place) (parts parts' : List String) :
    p.goAlong? (parts ++ parts') = (p.goAlong? parts).bind fun next => next.goAlong? parts' := by
  induction parts generalizing p with
  | nil => rfl
  | cons part parts ih =>
    cases h : p.go? part with
    | none => simp [goAlong?, h]
    | some next => simp [goAlong?, h, ih]

end Place

/-- A path cut at its slashes. -/
def cutPath : List Char → List (List Char)
  | [] => [[]]
  | c :: rest =>
    if c = '/' then [] :: cutPath rest
    else match cutPath rest with
      | [] => [[c]]
      | part :: parts => (c :: part) :: parts

/-- The parts of a path. A path with a slash at its end ends in a part without characters. -/
def partsOfPath (path : String) : List String :=
  (cutPath path.toList).map String.ofList

end FileTree

end CameraControl.Terminal
