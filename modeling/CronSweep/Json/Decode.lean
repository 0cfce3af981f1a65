import CronSweep.Instant.Rfc3339
import CronSweep.Json.Basic

namespace CronSweep.Json

def int32? : Json → Option Int32
  | .int n => if -2_147_483_648 ≤ n ∧ n ≤ 2_147_483_647 then some (Int32.ofInt n) else none
  | _ => none

def int64? : Json → Option Int64
  | .int n =>
      if -9_223_372_036_854_775_808 ≤ n ∧ n ≤ 9_223_372_036_854_775_807 then some (Int64.ofInt n)
      else none
  | _ => none

def uint16? : Json → Option UInt16
  | .int n => if 0 ≤ n ∧ n ≤ 65_535 then some (UInt16.ofNat n.toNat) else none
  | _ => none

def uint32? : Json → Option UInt32
  | .int n => if 0 ≤ n ∧ n ≤ 4_294_967_295 then some (UInt32.ofNat n.toNat) else none
  | _ => none

def uint64? : Json → Option UInt64
  | .int n =>
      if 0 ≤ n ∧ n ≤ 18_446_744_073_709_551_615 then some (UInt64.ofNat n.toNat) else none
  | _ => none

def time? : Json → Option Instant
  | .str s => Instant.ofText? s
  | _ => none

/-- One of a set of names: the name, or an object with `null` under the name and nothing else. -/
def symbol? : Json → Option String
  | .str s => some s
  | .obj [(s, .null)] => some s
  | _ => none

def nullable {α : Type} (decode : Json → Option α) : Json → Option (Option α)
  | .null => some none
  | j => (decode j).map some

def list? {α : Type} (decode : Json → Option α) : Json → Option (List α)
  | .arr xs => xs.mapM decode
  | _ => none

inductive Slot
  | missing
  | filled (value : Json)
  | repeated

namespace Slot

/-- A field is known by its name and its aliases. Two members for one field are a repetition, also
under different names. -/
def ofMembers (names : List String) (ms : List (String × Json)) : Slot :=
  match ms.filter fun m => names.contains m.1 with
  | [] => .missing
  | [m] => .filled m.2
  | _ => .repeated

def required {α : Type} (s : Slot) (decode : Json → Option α) : Option α :=
  match s with
  | .filled j => decode j
  | _ => none

def withDefault {α : Type} (s : Slot) (default : α) (decode : Json → Option α) : Option α :=
  match s with
  | .missing => some default
  | .filled j => decode j
  | .repeated => none

end Slot

/-- A record is an object, or an array of its fields in order, which may stop early. -/
def isRecord (size : Nat) : Json → Bool
  | .obj _ => true
  | .arr xs => xs.length ≤ size
  | _ => false

def slot (j : Json) (index : Nat) (names : List String) : Slot :=
  match j with
  | .obj ms => .ofMembers names ms
  | .arr xs => (xs[index]?).elim .missing .filled
  | _ => .missing

/-- A field of an object all of whose fields are optional. Every member of that name must decode,
and the last one counts. -/
def latest {α : Type} (ms : List (String × Json)) (name : String) (decode : Json → Option α) :
    Option (Option α) :=
  (ms.filter (·.1 == name)).foldlM (fun _ m => nullable decode m.2) none

def optional {α : Type} (name : String) (encode : α → Json) (value : Option α) :
    List (String × Json) :=
  match value with
  | some v => [(name, encode v)]
  | none => []

end CronSweep.Json
