import CameraControl.Feature
import CameraControl.Text.Blank

/-
  Names of features as callers write them.

  The driver reports some names with interior blanks and some without. Two names mean the same
  feature when they are equal up to blanks, and the registry is searched in that sense.
-/

namespace CameraControl

/-- Whether two names are equal up to blanks. -/
def keysMatch (a b : String) : Bool :=
  Text.solids a == Text.solids b

namespace Feature

/-- The feature whose key equals a name up to blanks. -/
def ofKey? (name : String) : Option Feature :=
  all.find? fun f => keysMatch f.key name

end Feature

theorem keysMatch_iff (a b : String) : keysMatch a b = true ↔ Text.solids a = Text.solids b := by
  simp [keysMatch]

/-- Names match exactly when they are the same text without blanks. -/
theorem keysMatch_iff_squeeze (a b : String) :
    keysMatch a b = true ↔ Text.squeeze a = Text.squeeze b := by
  rw [keysMatch_iff, Text.squeeze_eq_squeeze_iff]

end CameraControl
