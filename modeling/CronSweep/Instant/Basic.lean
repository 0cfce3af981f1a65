namespace CronSweep

/-- A point in time: the seconds since the start of 1970 and the nanoseconds since that second.
During a leap second, which can follow the last second of any minute, the nanoseconds run on past
one second. -/
structure Instant where
  second : Int
  nano : Nat
  nano_lt : nano < 1_000_000_000 ∨ (nano < 2_000_000_000 ∧ second % 60 = 59)
  earliest_le : -8334601228800 ≤ second
  le_latest : second ≤ 8210266876799
deriving DecidableEq

namespace Instant

/-- The instant of so many seconds and nanoseconds, if it lies in the years -262143 to 262142. -/
def ofParts? (second : Int) (nano : Nat) : Option Instant :=
  if h : (nano < 1_000_000_000 ∨ (nano < 2_000_000_000 ∧ second % 60 = 59)) ∧
      -8334601228800 ≤ second ∧ second ≤ 8210266876799 then
    some ⟨second, nano, h.1, h.2.1, h.2.2⟩
  else none

def IsLeap (t : Instant) : Prop := 1_000_000_000 ≤ t.nano

instance (t : Instant) : Decidable t.IsLeap := inferInstanceAs (Decidable (_ ≤ _))

instance : LE Instant :=
  ⟨fun a b => a.second < b.second ∨ (a.second = b.second ∧ a.nano ≤ b.nano)⟩
instance : LT Instant :=
  ⟨fun a b => a.second < b.second ∨ (a.second = b.second ∧ a.nano < b.nano)⟩
instance (a b : Instant) : Decidable (a ≤ b) := inferInstanceAs (Decidable (_ ∨ _))
instance (a b : Instant) : Decidable (a < b) := inferInstanceAs (Decidable (_ ∨ _))

def timeOfDay (t : Instant) : Int := t.second % 86400

/-- The nanoseconds from `start` to `now`, negative if `start` is later. A leap second counts only
between two times of day that have it between them. -/
def elapsed (start now : Instant) : Int :=
  let leap : Int :=
    if start.timeOfDay < now.timeOfDay ∧ start.IsLeap then 1
    else if now.timeOfDay < start.timeOfDay ∧ now.IsLeap then -1
    else 0
  (now.second - start.second + leap) * 1_000_000_000 + (now.nano - start.nano : Int)

theorem elapsed_of_not_isLeap {start now : Instant} (hs : ¬start.IsLeap) (hn : ¬now.IsLeap) :
    elapsed start now =
      (now.second - start.second) * 1_000_000_000 + (now.nano - start.nano : Int) := by
  simp [elapsed, hs, hn]

end Instant

end CronSweep
