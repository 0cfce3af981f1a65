import CronSweep.Json.Basic

namespace CronSweep.Json

def putMember (key : String) (value : Json) : List (String × Json) → List (String × Json)
  | [] => [(key, value)]
  | m :: ms =>
      if key < m.1 then (key, value) :: m :: ms
      else if key = m.1 then (key, value) :: ms
      else m :: putMember key value ms

mutual

/-- The value with the members of every object sorted by key, the last of equal keys kept. -/
def canonical : Json → Json
  | .arr xs => .arr (canonicalItems xs)
  | .obj ms => .obj ((canonicalMembers ms).foldl (fun sorted m => putMember m.1 m.2 sorted) [])
  | j => j

def canonicalItems : List Json → List Json
  | [] => []
  | x :: xs => canonical x :: canonicalItems xs

def canonicalMembers : List (String × Json) → List (String × Json)
  | [] => []
  | (k, v) :: ms => (k, canonical v) :: canonicalMembers ms

end

end CronSweep.Json
