import CronSweep.Decimal.Shortest
import CronSweep.Json.Basic
import CronSweep.Text.Basic

namespace CronSweep.Json

/-- Digits join a number as long as it fits 64 bits; the others are left over. -/
def absorb (n : Nat) : List Char → Nat × List Char
  | [] => (n, [])
  | c :: cs =>
      let m := 10 * n + Text.digitValue c
      if m ≤ 18_446_744_073_709_551_615 then absorb m cs else (n, c :: cs)

def ofDecimal (negative : Bool) (digits : Nat) (exponent : Int) : Json :=
  match Binary.ofDecimal? digits exponent with
  | some b => .real (b.shortest negative)
  | none => .unusable

/-- Digits beyond 64 bits count for the size of a number only, those of its fraction not at all. -/
def ofParts (negative : Bool) (whole fraction : List Char) (exponent : Int) : Json :=
  let (n, surplus) := absorb 0 whole
  let (n, unread) := absorb n fraction
  ofDecimal negative n (surplus.length - (fraction.length - unread.length : Nat) + exponent)

/-- `-0` is no integer, since integers have no signed zero. -/
def isInteger (negative : Bool) (n : Nat) : Bool :=
  if negative then n != 0 && n ≤ 9_223_372_036_854_775_808 else n ≤ 18_446_744_073_709_551_615

def ofWhole (negative : Bool) (whole : List Char) : Json :=
  let n := Text.decimalValue whole
  if isInteger negative n then .int (if negative then -n else n) else ofParts negative whole [] 0

def readExponent : List Char → Option Int
  | [] => some 0
  | c :: cs =>
      let (negative, ds) := match cs with
        | '-' :: ds => (true, ds)
        | '+' :: ds => (false, ds)
        | ds => (false, ds)
      if (c == 'e' || c == 'E') && !ds.isEmpty && ds.all Char.isDigit then
        some (if negative then -(Text.decimalValue ds : Int) else Text.decimalValue ds)
      else none

def readNumber (cs : List Char) : Option Json := do
  let (negative, cs) := match cs with
    | '-' :: cs => (true, cs)
    | cs => (false, cs)
  let whole := cs.takeWhile Char.isDigit
  guard (!whole.isEmpty && (whole.length == 1 || whole.head? != some '0'))
  match cs.dropWhile Char.isDigit with
  | [] => return ofWhole negative whole
  | '.' :: cs =>
      let fraction := cs.takeWhile Char.isDigit
      guard !fraction.isEmpty
      return ofParts negative whole fraction (← readExponent (cs.dropWhile Char.isDigit))
  | cs => return ofParts negative whole [] (← readExponent cs)

end CronSweep.Json
