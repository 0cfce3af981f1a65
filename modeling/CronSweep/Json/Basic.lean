import CronSweep.Decimal.Basic

namespace CronSweep

/-- A JSON value. Numbers without fraction and exponent that fit 64 bits are `int`, all others
`real`, so that `1` and `1.0` stay apart. The members of an object keep their order and may repeat
a key: what a repeated key means is left to the reader of the object. A value that is well written
but cannot be taken over, such as a number beyond double precision or a text with half a character,
is `unusable`: it may stand where nothing is read. -/
inductive Json
  | null
  | bool (value : Bool)
  | int (value : Int)
  | real (value : Decimal)
  | str (value : String)
  | arr (items : List Json)
  | obj (members : List (String × Json))
  | unusable
deriving Inhabited

namespace Json

def text? : Json → Option String
  | .str s => some s
  | _ => none

def bool? : Json → Option Bool
  | .bool b => some b
  | _ => none

def int? : Json → Option Int
  | .int n => some n
  | _ => none

def items? : Json → Option (List Json)
  | .arr xs => some xs
  | _ => none

def members? : Json → Option (List (String × Json))
  | .obj ms => some ms
  | _ => none

/-- The value of the last member with the key. -/
def get? (j : Json) (key : String) : Option Json :=
  match j with
  | .obj ms => (ms.filter (·.1 == key)).getLast?.map (·.2)
  | _ => none

def at? (j : Json) (index : Nat) : Option Json :=
  match j with
  | .arr xs => xs[index]?
  | _ => none

def isNull : Json → Bool
  | .null => true
  | _ => false

end Json

end CronSweep
