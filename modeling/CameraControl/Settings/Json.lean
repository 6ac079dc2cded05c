import CameraControl.Settings
import CameraControl.Json.Reader
import CameraControl.Json.Number

/-
  Features, values of families and camera settings in JSON texts.

  A name of a closed list (a feature, a kind, a value of a family) is a text or an object whose
  only pair has that text as its name and null as its value. Settings and areas of interest are
  objects, or lists with their fields in order.
-/

namespace CameraControl

open CameraControl.Json (Value)

namespace Json

/-- The identifier that a value gives. -/
def identifier? : Value → Option String
  | .text s => s
  | .object [(s, .null)] => s
  | _ => none

/-- An integer. -/
def int? : Value → Option Int64
  | .number n => n.toInt64?
  | _ => none

/-- A number. -/
def float? : Value → Option Binary64
  | .number n => n.toBinary64?
  | _ => none

/-- A truth value. -/
def bool? : Value → Option Bool
  | .boolean b => some b
  | _ => none

/-- The pairs of an object if all their names have contents. -/
def namedPairs? (pairs : List (Option String × Value)) : Option (List (String × Value)) :=
  pairs.mapM fun p => p.1.map fun name => (name, p.2)

/-- What a reader gives; null gives nothing inside. -/
def orNull {α : Type} (read : Value → Option α) : Value → Option (Option α)
  | .null => some none
  | v => (read v).map some

end Json

/-- A kind of features. -/
def FeatureKind.ofJson? (v : Value) : Option FeatureKind :=
  (Json.identifier? v).bind FeatureKind.ofIdentifier?

/-- A feature. -/
def Feature.ofJson? (v : Value) : Option Feature :=
  (Json.identifier? v).bind Feature.ofIdentifier?

/-- A value of a family. -/
def Choice.ofJson? (f : Family) (v : Value) : Option (Choice f) :=
  (Json.identifier? v).bind (Choice.ofIdentifier? f)

/-- An area of interest. -/
def Aoi.ofJson? : Value → Option Aoi
  | .object pairs => (Json.namedPairs? pairs).bind (Aoi.ofPairs? Json.int?)
  | .array items => Aoi.ofList? Json.int? items
  | _ => none

namespace Settings

/-- How JSON values give fields. Null says that a field is not set. -/
def jsonReaders : FieldReaders Value where
  float := Json.orNull Json.float?
  int := Json.orNull Json.int?
  bool := Json.orNull Json.bool?
  choice f := Json.orNull (Choice.ofJson? f)
  aoi := Json.orNull Aoi.ofJson?

/-- The settings that a JSON value gives. -/
def ofJson? : Value → Option Settings
  | .object pairs => (Json.namedPairs? pairs).bind (ofPairs? jsonReaders)
  | .array items => ofList? jsonReaders items
  | _ => none

end Settings

end CameraControl
