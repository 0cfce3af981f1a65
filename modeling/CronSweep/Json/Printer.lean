import CronSweep.Decimal.Shortest
import CronSweep.Json.Basic
import CronSweep.Text.Quoted

namespace CronSweep.Json

def escapeChar (c : Char) : List Char :=
  if c = '"' || c = '\\' then ['\\', c]
  else if c = '\x08' then ['\\', 'b']
  else if c = '\x0c' then ['\\', 'f']
  else if c = '\n' then ['\\', 'n']
  else if c = '\r' then ['\\', 'r']
  else if c = '\t' then ['\\', 't']
  else if c.toNat < 0x10 then ['\\', 'u', '0', '0', '0'] ++ Text.hexDigits c.toNat
  else if c.toNat < 0x20 then ['\\', 'u', '0', '0'] ++ Text.hexDigits c.toNat
  else [c]

def renderText (s : String) : String :=
  String.ofList ('"' :: s.toList.flatMap escapeChar ++ ['"'])

def renderScalar : Json → String
  | .null => "null"
  | .bool true => "true"
  | .bool false => "false"
  | .int n => toString n
  | .real x => x.text
  | .str s => renderText s
  | .arr _ => "[]"
  | .obj _ => "\x7b\x7d"
  | .unusable => "null"

mutual

def compact : Json → String
  | .arr xs => "[" ++ String.intercalate "," (compactItems xs) ++ "]"
  | .obj ms => "\x7b" ++ String.intercalate "," (compactMembers ms) ++ "\x7d"
  | j => renderScalar j

def compactItems : List Json → List String
  | [] => []
  | x :: xs => compact x :: compactItems xs

def compactMembers : List (String × Json) → List String
  | [] => []
  | (k, v) :: ms => (renderText k ++ ":" ++ compact v) :: compactMembers ms

end

def blanks (n : Nat) : String := String.ofList (List.replicate n ' ')

def block (opening closing : String) (indent : Nat) (entries : List String) : String :=
  if entries.isEmpty then opening ++ closing
  else
    opening ++ "\n" ++
      String.intercalate ",\n" (entries.map fun e => blanks (indent + 2) ++ e) ++
      "\n" ++ blanks indent ++ closing

mutual

def pretty (indent : Nat) : Json → String
  | .arr xs => block "[" "]" indent (prettyItems (indent + 2) xs)
  | .obj ms => block "\x7b" "\x7d" indent (prettyMembers (indent + 2) ms)
  | j => renderScalar j

def prettyItems (indent : Nat) : List Json → List String
  | [] => []
  | x :: xs => pretty indent x :: prettyItems indent xs

def prettyMembers (indent : Nat) : List (String × Json) → List String
  | [] => []
  | (k, v) :: ms => (renderText k ++ ": " ++ pretty indent v) :: prettyMembers indent ms

end

end CronSweep.Json
