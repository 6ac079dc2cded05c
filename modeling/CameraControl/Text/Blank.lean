/-
  Blank characters and texts compared without them.

  A character is blank when it has the Unicode property `White_Space`. Names of features are
  written with and without interior blanks, so names are compared by what is left of them when
  every blank is removed: `squeeze`.
-/

namespace CameraControl.Text

/-- The ranges of code points with the property `White_Space`, first and last included. -/
def blankRanges : List (Nat × Nat) :=
  [(0x9, 0xd), (0x20, 0x20), (0x85, 0x85), (0xa0, 0xa0), (0x1680, 0x1680), (0x2000, 0x200a),
   (0x2028, 0x2029), (0x202f, 0x202f), (0x205f, 0x205f), (0x3000, 0x3000)]

/-- Whether a character is blank. -/
def isBlank (c : Char) : Bool :=
  blankRanges.any fun r => r.1 ≤ c.toNat && c.toNat ≤ r.2

/-- What a text holds besides blanks, in order. -/
def solids (s : String) : List Char :=
  s.toList.filter fun c => !isBlank c

/-- A text without its blanks. -/
def squeeze (s : String) : String := String.ofList (solids s)

theorem toList_squeeze (s : String) : (squeeze s).toList = solids s := by
  simp [squeeze]

/-- Removing blanks a second time removes nothing. -/
theorem squeeze_squeeze (s : String) : squeeze (squeeze s) = squeeze s := by
  simp [squeeze, solids, List.filter_filter]

/-- Two texts without their blanks are equal exactly when their solid characters are. -/
theorem squeeze_eq_squeeze_iff (a b : String) : squeeze a = squeeze b ↔ solids a = solids b := by
  constructor
  · intro h
    simpa [toList_squeeze] using congrArg String.toList h
  · intro h
    simp [squeeze, h]

end CameraControl.Text
