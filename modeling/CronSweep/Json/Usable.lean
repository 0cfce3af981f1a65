import CronSweep.Json.Basic

namespace CronSweep.Json

mutual

def isUsable : Json → Bool
  | .arr xs => areUsable xs
  | .obj ms => haveUsable ms
  | .unusable => false
  | _ => true

def areUsable : List Json → Bool
  | [] => true
  | x :: xs => isUsable x && areUsable xs

def haveUsable : List (String × Json) → Bool
  | [] => true
  | (_, v) :: ms => isUsable v && haveUsable ms

end

def any? (j : Json) : Option Json := if j.isUsable then some j else none

end CronSweep.Json
