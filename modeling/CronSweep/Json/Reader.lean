import CronSweep.Json.Number

namespace CronSweep

namespace Text

/-- The first half of a character beyond the first 65536. -/
def isHigh (unit : Nat) : Bool := 0xd800 ≤ unit && unit ≤ 0xdbff

def isLow (unit : Nat) : Bool := 0xdc00 ≤ unit && unit ≤ 0xdfff

def joined (high low : Nat) : Char :=
  Char.ofNat (0x10000 + (high - 0xd800) * 0x400 + (low - 0xdc00))

/-- The text of code points in reverse, in front of what is done. A high and a low half that follow
one another are one character; a half that stands alone belongs to no text. -/
def ofUnits? (done : List Char) : List Nat → Option String
  | [] => some (String.ofList done)
  | [unit] =>
      if isHigh unit || isLow unit then none else some (String.ofList (Char.ofNat unit :: done))
  | unit :: before :: units =>
      if isHigh before && isLow unit then ofUnits? (joined before unit :: done) units
      else if isHigh unit || isLow unit then none
      else ofUnits? (Char.ofNat unit :: done) (before :: units)

end Text

namespace Json

def readWord : List Char → Option Json
  | ['n', 'u', 'l', 'l'] => some .null
  | ['t', 'r', 'u', 'e'] => some (.bool true)
  | ['f', 'a', 'l', 's', 'e'] => some (.bool false)
  | cs => readNumber cs

def isWordChar (c : Char) : Bool :=
  c.isAlphanum || c == '+' || c == '-' || c == '.'

def hexValue? (c : Char) : Option Nat :=
  if c.isDigit then some (Text.digitValue c)
  else if 'a' ≤ c && c ≤ 'f' then some (c.toNat - 'a'.toNat + 10)
  else if 'A' ≤ c && c ≤ 'F' then some (c.toNat - 'A'.toNat + 10)
  else none

/-- An open array or object, its contents so far in reverse. A key that is no text is `none`. -/
inductive Frame
  | items (done : List Json)
  | members (done : List (Option String × Json))
  | member (done : List (Option String × Json)) (key : Option String)

inductive Expect
  | value
  | valueOrClose
  | key
  | keyOrClose
  | colon (key : Option String)
  | separator
  | nothing (value : Json)

/-- Where the reader stands inside a word or a quoted text; texts are collected in reverse, as code
points and halves of characters. -/
inductive Mode
  | blank
  | word (done : List Char)
  | text (done : List Nat)
  | escape (done : List Nat)
  | hex (done : List Nat) (count value : Nat)

structure Reader where
  mode : Mode
  frames : List Frame
  expect : Expect

namespace Reader

def start : Reader := ⟨.blank, [], .value⟩

def place (v : Json) : List Frame → Option Reader
  | [] => some ⟨.blank, [], .nothing v⟩
  | .items xs :: fs => some ⟨.blank, .items (v :: xs) :: fs, .separator⟩
  | .member ms k :: fs => some ⟨.blank, .members ((k, v) :: ms) :: fs, .separator⟩
  | .members _ :: _ => none

def value (r : Reader) (v : Json) : Option Reader :=
  match r.expect with
  | .value | .valueOrClose => place v r.frames
  | _ => none

def string (r : Reader) (s : Option String) : Option Reader :=
  match r.expect with
  | .key | .keyOrClose => some ⟨.blank, r.frames, .colon s⟩
  | _ => r.value (s.elim .unusable .str)

def open? (r : Reader) (frame : Frame) (expect : Expect) : Option Reader :=
  match r.expect with
  | .value | .valueOrClose => some ⟨.blank, frame :: r.frames, expect⟩
  | _ => none

def maxDepth : Nat := 127

def close (v : Json) (around : List Frame) : Option Reader :=
  place (if (around.take maxDepth).length < maxDepth then v else .unusable) around

def object (done : List (Option String × Json)) : Json :=
  match done.reverse.mapM fun (m : Option String × Json) => m.1.map fun k => (k, m.2) with
  | some ms => .obj ms
  | none => .unusable

def mark (r : Reader) (c : Char) : Option Reader :=
  match c, r.expect, r.frames with
  | '[', _, _ => r.open? (.items []) .valueOrClose
  | '\x7b', _, _ => r.open? (.members []) .keyOrClose
  | ']', .valueOrClose, .items xs :: fs => close (.arr xs.reverse) fs
  | ']', .separator, .items xs :: fs => close (.arr xs.reverse) fs
  | '\x7d', .keyOrClose, .members ms :: fs => close (object ms) fs
  | '\x7d', .separator, .members ms :: fs => close (object ms) fs
  | ',', .separator, .items xs :: fs => some ⟨.blank, .items xs :: fs, .value⟩
  | ',', .separator, .members ms :: fs => some ⟨.blank, .members ms :: fs, .key⟩
  | ':', .colon k, .members ms :: fs => some ⟨.blank, .member ms k :: fs, .value⟩
  | _, _, _ => none

def outside (r : Reader) (c : Char) : Option Reader :=
  if c == ' ' || c == '\n' || c == '\t' || c == '\r' then some { r with mode := .blank }
  else if c == '"' then some { r with mode := .text [] }
  else if isWordChar c then some { r with mode := .word [c] }
  else r.mark c

def escaped? : Char → Option Char
  | '"' => some '"'
  | '\\' => some '\\'
  | '/' => some '/'
  | 'b' => some '\x08'
  | 'f' => some '\x0c'
  | 'n' => some '\n'
  | 'r' => some '\r'
  | 't' => some '\t'
  | _ => none

def step (r : Reader) (c : Char) : Option Reader :=
  match r.mode with
  | .blank => r.outside c
  | .word w =>
      if isWordChar c then some { r with mode := .word (c :: w) }
      else do
        let v ← readWord w.reverse
        let r ← r.value v
        r.outside c
  | .text units =>
      if c == '"' then r.string (Text.ofUnits? [] units)
      else if c == '\\' then some { r with mode := .escape units }
      else if c.toNat < 0x20 then none
      else some { r with mode := .text (c.toNat :: units) }
  | .escape units =>
      if c == 'u' then some { r with mode := .hex units 0 0 }
      else (escaped? c).map fun e => { r with mode := .text (e.toNat :: units) }
  | .hex units count value => do
      let value := 16 * value + (← hexValue? c)
      return { r with
        mode := if count < 3 then .hex units (count + 1) value else .text (value :: units) }

def finish (r : Reader) : Option Json := do
  let r ← match r.mode with
    | .blank => some r
    | .word w => do r.value (← readWord w.reverse)
    | _ => none
  match r.expect with
  | .nothing v => some v
  | _ => none

end Reader

def parse (text : String) : Option Json := do
  let r ← text.toList.foldlM Reader.step Reader.start
  r.finish

end Json

end CronSweep
