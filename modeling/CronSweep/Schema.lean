import CronSweep.Json.Canonical

namespace CronSweep

inductive IntegerFormat
  | int32
  | int64
  | uint64
deriving DecidableEq

namespace IntegerFormat

def name : IntegerFormat → String
  | .int32 => "int32"
  | .int64 => "int64"
  | .uint64 => "uint64"

def admits : IntegerFormat → Int → Bool
  | .int32, n => -2_147_483_648 ≤ n && n ≤ 2_147_483_647
  | .int64, n => -9_223_372_036_854_775_808 ≤ n && n ≤ 9_223_372_036_854_775_807
  | .uint64, n => 0 ≤ n && n ≤ 18_446_744_073_709_551_615

/-- Readers that do not know the unsigned format are told its lower bound. -/
def minimum? : IntegerFormat → Option Decimal
  | .int32 | .int64 => none
  | .uint64 => some ⟨false, 0, 0⟩

end IntegerFormat

inductive Schema
  | boolean
  | string
  | dateTime
  | choice (names : List String)
  | integer (format : IntegerFormat)
  | list (item : Schema)
  /-- An object may leave out all but its required properties. -/
  | object (properties : List (String × Schema)) (required : List String)
  | nullable (schema : Schema)
  | described (text : String) (schema : Schema)
  | titled (title : String) (schema : Schema)
  | withDefault (value : Json) (schema : Schema)

namespace Schema

def sortedObject (ms : List (String × Json)) : Json :=
  .obj (ms.foldl (fun sorted m => Json.putMember m.1 m.2 sorted) [])

mutual

def keywords : Schema → List (String × Json)
  | .boolean => [("type", .str "boolean")]
  | .string => [("type", .str "string")]
  | .dateTime => [("format", .str "date-time"), ("type", .str "string")]
  | .choice names => [("enum", .arr (names.map .str)), ("type", .str "string")]
  | .integer format =>
      [("format", .str format.name), ("type", .str "integer")] ++
        format.minimum?.elim [] fun x => [("minimum", .real x)]
  | .list item => [("items", sortedObject (keywords item)), ("type", .str "array")]
  | .object properties required =>
      [("properties", sortedObject (propertyKeywords properties)), ("type", .str "object")] ++
        if required.isEmpty then [] else [("required", .arr (required.map .str))]
  | .nullable s => ("nullable", .bool true) :: keywords s
  | .described text s => ("description", .str text) :: keywords s
  | .titled title s => ("title", .str title) :: keywords s
  | .withDefault value s => ("default", value) :: keywords s

def propertyKeywords : List (String × Schema) → List (String × Json)
  | [] => []
  | (name, s) :: ps => (name, sortedObject (keywords s)) :: propertyKeywords ps

end

def toJson (s : Schema) : Json := sortedObject s.keywords

mutual

/-- Whether a value has the form. Properties that are not listed are let through. -/
def admits : Schema → Json → Bool
  | .boolean, j => j.bool?.isSome
  | .string, j | .dateTime, j => j.text?.isSome
  | .choice names, j => j.text?.any names.contains
  | .integer format, j => j.int?.any format.admits
  | .list item, .arr xs => xs.all fun x => item.admits x
  | .object properties required, .obj ms =>
      required.all (fun name => ms.any (·.1 == name)) && admitsProperties properties ms
  | .nullable s, j => j.isNull || s.admits j
  | .described _ s, j | .titled _ s, j | .withDefault _ s, j => s.admits j
  | _, _ => false

def admitsProperties : List (String × Schema) → List (String × Json) → Bool
  | [], _ => true
  | (name, s) :: ps, ms =>
      (ms.all fun m => m.1 != name || s.admits m.2) && admitsProperties ps ms

end

end Schema

end CronSweep
