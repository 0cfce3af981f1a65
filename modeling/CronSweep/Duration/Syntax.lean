import CronSweep.Duration.Basic
import CronSweep.Text.Basic
import CronSweep.Text.Quoted

namespace CronSweep.Duration

inductive Fault
  | empty
  | invalid
  | missingUnit
  | unknownUnit (unit : String)
  | overflow
  | negative
deriving DecidableEq

structure SyntaxError where
  fault : Fault
  input : String
deriving DecidableEq

def SyntaxError.message (e : SyntaxError) : String :=
  match e.fault with
  | .empty => "empty duration"
  | .invalid => "invalid duration " ++ Text.quoted e.input
  | .missingUnit => "missing unit in duration " ++ Text.quoted e.input
  | .unknownUnit unit =>
      "unknown unit " ++ Text.quoted unit ++ " in duration " ++ Text.quoted e.input
  | .overflow => "duration " ++ Text.quoted e.input ++ " overflows"
  | .negative => "duration " ++ Text.quoted e.input ++ " is negative"

inductive TimeUnit
  | nanosecond
  | microsecond
  | millisecond
  | second
  | minute
  | hour
deriving DecidableEq

namespace TimeUnit

def nanos : TimeUnit → Nat
  | .nanosecond => 1
  | .microsecond => 1000
  | .millisecond => 1000 * 1000
  | .second => 1000 * 1000 * 1000
  | .minute => 60 * (1000 * 1000 * 1000)
  | .hour => 60 * (60 * (1000 * 1000 * 1000))

/-- The unit that a spelling names. The micro sign U+00B5 and the Greek letter U+03BC both stand for
`u`. -/
def ofSymbol? : List Char → Option TimeUnit
  | ['n', 's'] => some .nanosecond
  | ['u', 's'] => some .microsecond
  | ['\u00b5', 's'] => some .microsecond
  | ['\u03bc', 's'] => some .microsecond
  | ['m', 's'] => some .millisecond
  | ['s'] => some .second
  | ['m'] => some .minute
  | ['h'] => some .hour
  | _ => none

end TimeUnit

def isNumeral (c : Char) : Bool := c.isDigit || c == '.'

/-- A run of numerals and the run of other characters after it. -/
structure Component where
  number : List Char
  unit : List Char
deriving DecidableEq

/-- A text cut before each run of numerals. Only the first component can lack its number. -/
def components : List Char → List Component
  | [] => []
  | c :: cs =>
      match components cs with
      | [] => if isNumeral c then [⟨[c], []⟩] else [⟨[], [c]⟩]
      | k :: ks =>
          if isNumeral c then ⟨c :: k.number, k.unit⟩ :: ks
          else if k.number.isEmpty then ⟨[], c :: k.unit⟩ :: ks
          else ⟨[], [c]⟩ :: k :: ks

/-- Amounts of nanoseconds are counted in 128 bits. -/
def inRange (n : Nat) : Except Fault Nat :=
  if n < 340_282_366_920_938_463_463_374_607_431_768_211_456 then .ok n else .error .overflow

/-- Add the digits after the point, each a tenth of the place before it. A place below one
nanosecond ends the sum. -/
def addFraction (total place : Nat) : List Char → Except Fault Nat
  | [] => .ok total
  | d :: ds =>
      if place / 10 = 0 then .ok total
      else do
        let total ← inRange (total + Text.digitValue d * (place / 10))
        addFraction total (place / 10) ds

def scaled (number : List Char) (unit : Nat) : Except Fault Nat := do
  let whole := number.takeWhile (· != '.')
  let fraction := (number.dropWhile (· != '.')).drop 1
  if fraction.contains '.' then .error .invalid
  else do
    let whole ← inRange (Text.decimalValue whole)
    let total ← inRange (whole * unit)
    addFraction total unit fraction

def Component.nanos (k : Component) : Except Fault Nat :=
  if k.number = [] ∨ k.number = ['.'] then .error .invalid
  else if k.unit = [] then .error .missingUnit
  else match TimeUnit.ofSymbol? k.unit with
    | none => .error (.unknownUnit (String.ofList k.unit))
    | some unit => scaled k.number unit.nanos

def addComponent (total : Nat) (k : Component) : Except Fault Nat := do
  let n ← k.nanos
  inRange (total + n)

def sum (cs : List Char) : Except Fault Nat := (components cs).foldlM addComponent 0

def splitSign : List Char → Bool × List Char
  | '-' :: cs => (true, cs)
  | '+' :: cs => (false, cs)
  | cs => (false, cs)

/-- A trimmed text: a sign, then `0` or components. The sign is looked at last, and a negative
zero is zero. -/
def parseTrimmed (cs : List Char) : Except Fault Duration :=
  if cs = [] then .error .empty
  else
    let (negative, rest) := splitSign cs
    if rest = ['0'] then .ok zero
    else if rest = [] then .error .invalid
    else do
      let total ← sum rest
      if negative && total > 0 then .error .negative
      else match ofNanos? total with
        | some d => .ok d
        | none => .error .overflow

def parse (input : String) : Except SyntaxError Duration :=
  match parseTrimmed (Text.trim input.toList) with
  | .ok d => .ok d
  | .error fault => .error ⟨fault, input⟩

end CronSweep.Duration
