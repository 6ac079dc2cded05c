import CameraControl.Number.Decimal

/-
  Values of TOML documents.

  Tables remember how they were written, because not every form of a table is accepted everywhere.
  Dates are recognised but not looked into: no setting is one.
-/

namespace CameraControl.Toml

/-- The forms of a table. -/
inductive TableForm where
  /-- Between braces. -/
  | inline
  /-- Made by a key with points in it. -/
  | dotted
  /-- Made by a header line. -/
  | header
  deriving DecidableEq, Repr

/-- A value of a TOML document. Tables keep their pairs in order and may repeat a key. -/
inductive Value where
  | integer (n : Int64)
  | float (x : Binary64)
  | boolean (b : Bool)
  | text (s : String)
  | date
  | array (items : List Value)
  | table (form : TableForm) (pairs : List (String × Value))
  deriving Repr

instance : Inhabited Value := ⟨.date⟩

end CameraControl.Toml
