namespace CronSweep.Calendar

/-- A day of the Gregorian calendar, extended to all years. -/
structure Date where
  year : Int
  month : Nat
  day : Nat
deriving DecidableEq

def isLeap (year : Int) : Bool := year % 4 == 0 && (year % 100 != 0 || year % 400 == 0)

def monthLengths (leap : Bool) : List Nat :=
  [31, if leap then 29 else 28, 31, 30, 31, 30, 31, 31, 30, 31, 30, 31]

def daysBeforeYear (year : Int) : Int :=
  let y := year - 1
  365 * y + y / 4 - y / 100 + y / 400

/-- The days from the first of January of year 1 to that of 1970. -/
def epoch : Int := 719162

def Date.IsValid (d : Date) : Prop :=
  1 ≤ d.month ∧ d.month ≤ 12 ∧ 1 ≤ d.day ∧
    d.day ≤ ((monthLengths (isLeap d.year))[d.month - 1]?).getD 0

instance (d : Date) : Decidable d.IsValid := inferInstanceAs (Decidable (_ ∧ _ ∧ _ ∧ _))

def daysBeforeMonth (leap : Bool) (month : Nat) : Nat :=
  ((monthLengths leap).take (month - 1)).foldr (· + ·) 0

/-- The days from the first of January 1970. -/
def Date.dayNumber (d : Date) : Int :=
  daysBeforeYear d.year + daysBeforeMonth (isLeap d.year) d.month + (d.day - 1 : Nat) - epoch

/-- The year that holds a day counted from the first of January of year 1: the mean length of a
year gives it up to one. -/
def yearOf (days : Int) : Int :=
  let guess := 400 * days / 146097 + 1
  if days < daysBeforeYear guess then guess - 1
  else if daysBeforeYear (guess + 1) ≤ days then guess + 1
  else guess

def splitMonths : List Nat → Nat → Nat × Nat
  | [], days => (0, days)
  | l :: ls, days =>
      if days < l then (0, days)
      else ((splitMonths ls (days - l)).1 + 1, (splitMonths ls (days - l)).2)

def Date.ofDayNumber (n : Int) : Date :=
  let days := n + epoch
  let year := yearOf days
  let split := splitMonths (monthLengths (isLeap year)) (days - daysBeforeYear year).toNat
  ⟨year, split.1 + 1, split.2 + 1⟩

end CronSweep.Calendar
