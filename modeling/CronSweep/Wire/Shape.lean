import CronSweep.Wire.Metadata

namespace CronSweep.Wire

/-- The form that a part of a reply must have although its content is not used. -/
inductive Shape
  | text
  | bool
  | int32
  | int64
  | intOrText
  | time
  | metadata
  | list (item : Shape)
  | texts
  /-- Every field may be missing or `null`; other members are let through. -/
  | object (fields : List (String × Shape))

mutual

def Shape.admits : Shape → Json → Bool
  | .text, j => j.text?.isSome
  | .bool, j => j.bool?.isSome
  | .int32, j => j.int32?.isSome
  | .int64, j => j.int64?.isSome
  | .intOrText, j => j.int32?.isSome || j.text?.isSome
  | .time, j => j.time?.isSome
  | .metadata, j => (Metadata.ofJson? j).isSome
  | .list item, .arr xs => xs.all fun x => item.admits x
  | .texts, .obj ms => ms.all fun m => m.2.text?.isSome
  | .object fields, .obj ms => Shape.admitsFields fields ms
  | _, _ => false

def Shape.admitsFields : List (String × Shape) → List (String × Json) → Bool
  | [], _ => true
  | (name, shape) :: fields, ms =>
      (ms.all fun m => m.1 != name || m.2.isNull || shape.admits m.2) &&
        Shape.admitsFields fields ms

end

def Shape.check? (s : Shape) (j : Json) : Option Unit := if s.admits j then some () else none

def Shape.each (s : Shape) (names : List String) : List (String × Shape) :=
  names.map fun name => (name, s)

def requirementShape : Shape :=
  .object [("key", .text), ("operator", .text), ("values", .list .text)]

def selectorShape : Shape :=
  .object [("matchExpressions", .list requirementShape), ("matchLabels", .texts)]

def hasHeader (apiVersion kind : String) (ms : List (String × Json)) : Bool :=
  ms.all fun m =>
    (m.1 != "apiVersion" || m.2.text? == some apiVersion) &&
      (m.1 != "kind" || m.2.text? == some kind)

end CronSweep.Wire
