import CronSweep.Decimal.Basic

namespace CronSweep

namespace Binary

def compareDecimal (a : Nat) (i : Int) (n : Nat) (j : Int) : Ordering :=
  compare (a * Nat.pow 10 i.toNat * Nat.pow 2 (-j).toNat)
    (n * Nat.pow 2 j.toNat * Nat.pow 10 (-i).toNat)

/-- At a power of two the next number below is nearer than the next one above. -/
def isNarrow (b : Binary) : Bool := b.significand == 4_503_599_627_370_496 && b.exponent != -1074

/-- Whether `b` is the nearest number to `a · 10 ^ i`. Of two equally near ones it is the one with
the even significand. -/
def readsBack (b : Binary) (a : Nat) (i : Int) : Bool :=
  let lower := compareDecimal a i (4 * b.significand - if b.isNarrow then 1 else 2) (b.exponent - 2)
  let upper := compareDecimal a i (4 * b.significand + 2) (b.exponent - 2)
  if b.significand % 2 = 0 then lower != .lt && upper != .gt else lower == .gt && upper == .lt

def magnitude (b : Binary) : Int :=
  let guess : Int := (Decimal.digitCount (b.significand * Nat.pow 2 b.exponent.toNat) : Int) -
    (Decimal.digitCount (Nat.pow 2 (-b.exponent).toNat) : Int)
  if compareDecimal 1 guess b.significand b.exponent = .gt then guess else guess + 1

def floorAt (b : Binary) (i : Int) : Nat :=
  (b.significand * Nat.pow 2 b.exponent.toNat * Nat.pow 10 (-i).toNat) /
    (Nat.pow 2 (-b.exponent).toNat * Nat.pow 10 i.toNat)

/-- A multiple of `10 ^ i` that reads back, the nearer one if there are two. -/
def onGrid? (b : Binary) (i : Int) : Option Nat :=
  let a := b.floorAt i
  match b.readsBack a i, b.readsBack (a + 1) i with
  | false, false => none
  | true, false => some a
  | false, true => some (a + 1)
  | true, true =>
      match compareDecimal (2 * a + 1) i (2 * b.significand) b.exponent with
      | .gt => some a
      | .lt => some (a + 1)
      | .eq => some (if a % 2 = 0 then a else a + 1)

def exactDecimal (negative : Bool) (b : Binary) : Decimal :=
  ⟨negative, b.significand * Nat.pow 2 b.exponent.toNat * Nat.pow 5 (-b.exponent).toNat,
    min b.exponent 0⟩

def shortest (negative : Bool) (b : Binary) : Decimal :=
  if b.significand = 0 then ⟨negative, 0, 0⟩ else
  let found := (List.range 17).findSome? fun (n : Nat) =>
    let i := b.magnitude - (n + 1 : Nat)
    (b.onGrid? i).map fun a =>
      if a % 10 = 0 then (⟨negative, a / 10, i + 1⟩ : Decimal) else ⟨negative, a, i⟩
  found.getD (b.exactDecimal negative)

end Binary

namespace Decimal

def zeros (n : Nat) : List Char := List.replicate n '0'

def powerChars (n : Int) : List Char :=
  'e' :: (if n < 0 then '-' else '+') :: Nat.toDigits 10 n.natAbs

/-- Numbers from a hundred-thousandth up to ten to the sixteenth are written with a point in its
place, all others with the power of ten of their first digit. -/
def chars (x : Decimal) : List Char :=
  let ds := Nat.toDigits 10 x.digits
  let point := ds.length + x.exponent
  let sign := if x.negative then ['-'] else []
  if x.digits = 0 then sign ++ ['0', '.', '0']
  else if 0 ≤ x.exponent ∧ point ≤ 16 then sign ++ ds ++ zeros x.exponent.toNat ++ ['.', '0']
  else if 0 < point ∧ point ≤ 16 then sign ++ ds.take point.toNat ++ '.' :: ds.drop point.toNat
  else if -5 < point ∧ point ≤ 0 then sign ++ '0' :: '.' :: zeros (-point).toNat ++ ds
  else
    let rest := ds.drop 1
    let fraction := if rest.isEmpty then [] else '.' :: rest
    sign ++ ds.take 1 ++ fraction ++ powerChars (point - 1)

def text (x : Decimal) : String := String.ofList x.chars

end Decimal

end CronSweep
