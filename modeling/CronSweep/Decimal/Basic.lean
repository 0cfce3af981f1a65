namespace CronSweep

/-- The number `± digits · 10 ^ exponent`, of which there are several ways to write. -/
structure Decimal where
  negative : Bool
  digits : Nat
  exponent : Int
deriving DecidableEq

namespace Decimal

def digitCount (n : Nat) : Nat := (Nat.toDigits 10 n).length

end Decimal

/-- The magnitude `significand · 2 ^ exponent` of a number in double precision: the significand has
53 bits, or fewer at the least exponent. -/
structure Binary where
  significand : Nat
  exponent : Int

namespace Binary

def zero : Binary := ⟨0, -1074⟩

/-- A quotient rounded to the nearest number, halves to the even one. -/
def roundDiv (num den : Nat) : Nat :=
  let q := num / den
  let r := num % den
  if 2 * r < den ∨ (2 * r = den ∧ q % 2 = 0) then q else q + 1

def inUnits (num den : Nat) (exponent : Int) : Nat :=
  roundDiv (num * Nat.pow 2 (-exponent).toNat) (den * Nat.pow 2 exponent.toNat)

/-- The nearest number to a quotient, none if that is too large. The unit is chosen such that the
quotient has 53 or 54 bits; one bit too many moves it up by one. -/
def ofQuotient? (num den : Nat) : Option Binary :=
  let e := max (-1074) ((num.log2 : Int) - den.log2 - 53)
  let e := if inUnits num den e < 9_007_199_254_740_992 then e else e + 1
  let m := inUnits num den e
  let b : Binary :=
    if m < 9_007_199_254_740_992 then ⟨m, e⟩ else ⟨4_503_599_627_370_496, e + 1⟩
  if b.exponent ≤ 971 then some b else none

def ofScaled? (num den : Nat) (exponent : Int) : Option Binary :=
  ofQuotient? (num * Nat.pow 2 exponent.toNat) (den * Nat.pow 2 (-exponent).toNat)

def ofNat? (n : Nat) : Option Binary := ofScaled? n 1 0

def powerOfTen? (n : Nat) : Option Binary := ofNat? (Nat.pow 10 n)

def mul? (a b : Binary) : Option Binary :=
  ofScaled? (a.significand * b.significand) 1 (a.exponent + b.exponent)

def div? (a b : Binary) : Option Binary :=
  ofScaled? a.significand b.significand (a.exponent - b.exponent)

/-- The number `digits · 10 ^ exponent`, none if it is too large. Each step is rounded on its own,
so the last bit may be another one than that of the nearest number. A power of ten that is out of
range is divided by in two steps. -/
def ofDecimal? (digits : Nat) (exponent : Int) : Option Binary := do
  if digits = 0 ∨ exponent < -616 then return zero
  guard (exponent ≤ 308)
  let x ← ofNat? digits
  if 0 ≤ exponent then x.mul? (← powerOfTen? exponent.toNat)
  else if -308 ≤ exponent then x.div? (← powerOfTen? (-exponent).toNat)
  else
    let x ← x.div? (← powerOfTen? 308)
    x.div? (← powerOfTen? (-exponent - 308).toNat)

end Binary

end CronSweep
