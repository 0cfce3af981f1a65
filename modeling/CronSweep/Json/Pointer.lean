import CronSweep.Json.Basic
import CronSweep.Text.Basic

namespace CronSweep.Json

def unescapeStep : List Char → List Char
  | '~' :: '1' :: cs => '/' :: unescapeStep cs
  | '~' :: '0' :: cs => '~' :: unescapeStep cs
  | c :: cs => c :: unescapeStep cs
  | [] => []

def position? (cs : List Char) : Option Nat :=
  if cs.isEmpty || !cs.all Char.isDigit || (cs.head? == some '0' && 1 < cs.length) then none
  else some (Text.decimalValue cs)

def step? (j : Json) (step : List Char) : Option Json :=
  match j with
  | .obj _ => j.get? (String.ofList step)
  | .arr _ => (position? step).bind j.at?
  | _ => none

def pointer? (j : Json) (pointer : String) : Option Json :=
  match pointer.splitOn "/" with
  | "" :: steps => steps.foldlM (fun j s => j.step? (unescapeStep s.toList)) j
  | _ => none

end CronSweep.Json
