import CronSweep.Duration.Syntax
import CronSweep.Proofs.Policy.Checked
import Mathlib.Algebra.Order.Floor.Semifield
import Mathlib.Data.List.TakeWhile
import Mathlib.Data.Rat.Floor
import Mathlib.Tactic.FieldSimp
import Mathlib.Tactic.Ring

namespace CronSweep

namespace Text

theorem decimalValue_cons (d : Char) (ds : List Char) :
    decimalValue (d :: ds) = digitValue d * 10 ^ ds.length + decimalValue ds := by
  change Nat.ofDigitChars 10 (d :: ds) 0 = digitValue d * 10 ^ ds.length + Nat.ofDigitChars 10 ds 0
  rw [Nat.ofDigitChars_cons, Nat.mul_zero, Nat.zero_add, Nat.ofDigitChars_eq_ofDigitChars_zero,
    Nat.mul_comm]
  rfl

theorem digitValue_le {d : Char} (h : d.isDigit = true) : digitValue d ≤ 9 := by
  have hd : 48 ≤ d.toNat ∧ d.toNat ≤ 57 := Char.isDigit_iff_toNat.mp h
  change d.toNat - 48 ≤ 9
  omega

theorem decimalValue_lt {ds : List Char} (h : ∀ d ∈ ds, d.isDigit = true) :
    decimalValue ds < 10 ^ ds.length := by
  induction ds with
  | nil => decide
  | cons d ds ih =>
      obtain ⟨hd, hds⟩ := List.forall_mem_cons.mp h
      have hfirst := Nat.mul_le_mul_right (10 ^ ds.length) (digitValue_le hd)
      have hrest := ih hds
      rw [decimalValue_cons, List.length_cons, Nat.pow_succ]
      omega

end Text

namespace Duration

/-- The first amount that 128 bits do not hold. -/
def amountBound : Nat := 340_282_366_920_938_463_463_374_607_431_768_211_456

theorem inRange_eq_ok_iff {n m : Nat} : inRange n = .ok m ↔ n = m ∧ n < amountBound := by
  rw [inRange, ← amountBound]
  by_cases h : n < amountBound <;> simp [h]

/-- What the digits after the point add, each of them a tenth of the place before it, where a place
is a whole number of nanoseconds. -/
def fractionSum (place : Nat) : List Char → Nat
  | [] => 0
  | d :: ds => Text.digitValue d * (place / 10) + fractionSum (place / 10) ds

theorem fractionSum_of_lt_ten {place : Nat} (h : place < 10) (ds : List Char) :
    fractionSum place ds = 0 := by
  induction ds generalizing place with
  | nil => rfl
  | cons d ds ih =>
      have hplace : place / 10 = 0 := Nat.div_eq_of_lt h
      rw [fractionSum, hplace, ih (by decide)]
      rfl

theorem inRange_of_lt {n : Nat} (h : n < amountBound) : inRange n = .ok n :=
  inRange_eq_ok_iff.mpr ⟨rfl, h⟩

theorem inRange_of_le {n : Nat} (h : amountBound ≤ n) : inRange n = .error .overflow := by
  rw [inRange, ← amountBound, if_neg (Nat.not_lt.mpr h)]

/-- Of two checks the one of the greater amount decides. -/
theorem inRange_bind {n m : Nat} (h : n ≤ m) {f : Nat → Except Fault Nat}
    (hf : n < amountBound → f n = inRange m) : (inRange n >>= f) = inRange m := by
  by_cases hn : n < amountBound
  · rw [inRange_of_lt hn]
    exact hf hn
  · have hle := Nat.le_of_not_lt hn
    rw [inRange_of_le hle, inRange_of_le (hle.trans h)]
    rfl

theorem addFraction_eq_inRange {total : Nat} (place : Nat) (ds : List Char)
    (h : total < amountBound) :
    addFraction total place ds = inRange (total + fractionSum place ds) := by
  induction ds generalizing total place with
  | nil => exact (inRange_of_lt h).symm
  | cons d ds ih =>
      rw [addFraction]
      by_cases hplace : place / 10 = 0
      · rw [if_pos hplace, fractionSum_of_lt_ten (by omega), Nat.add_zero, inRange_of_lt h]
      · rw [if_neg hplace, fractionSum, ← Nat.add_assoc]
        exact inRange_bind (Nat.le_add_right _ _) fun hlt => ih _ hlt

def wholeDigits (number : List Char) : List Char := number.takeWhile (· != '.')

def fractionDigits (number : List Char) : List Char := (number.dropWhile (· != '.')).drop 1

def countedUnits (number : List Char) (unit : Nat) : Nat :=
  Text.decimalValue (wholeDigits number) * unit + fractionSum unit (fractionDigits number)

theorem scaled_eq_inRange {number : List Char} {unit : Nat} (hunit : 0 < unit)
    (hpoint : '.' ∉ fractionDigits number) :
    scaled number unit = inRange (countedUnits number unit) := by
  have hcontains : (fractionDigits number).contains '.' = false := by simpa using hpoint
  have hwhole := Nat.le_mul_of_pos_right (Text.decimalValue (wholeDigits number)) hunit
  rw [scaled, ← wholeDigits, ← fractionDigits, hcontains, if_neg Bool.false_ne_true]
  refine inRange_bind (hwhole.trans (Nat.le_add_right _ _)) fun _ => ?_
  exact inRange_bind (Nat.le_add_right _ _) fun hlt => addFraction_eq_inRange unit _ hlt

theorem scaled_eq_ok_iff {number : List Char} {unit n : Nat} (hunit : 0 < unit) :
    scaled number unit = .ok n ↔
      '.' ∉ fractionDigits number ∧
      Text.decimalValue (wholeDigits number) * unit + fractionSum unit (fractionDigits number) = n ∧
      n < amountBound := by
  rw [← countedUnits]
  by_cases hpoint : '.' ∈ fractionDigits number
  · rw [scaled, ← fractionDigits]
    simp [hpoint]
  · rw [scaled_eq_inRange hunit hpoint, inRange_eq_ok_iff]
    simp only [hpoint, not_false_eq_true, true_and]
    exact and_congr_right fun h => by rw [h]

/-- A run of decimal digits with at most one point among, before or after them. -/
structure IsNumber (cs : List Char) : Prop where
  numerals : ∀ c ∈ cs, c.isDigit = true ∨ c = '.'
  point : cs.count '.' ≤ 1
  digit : ∃ c ∈ cs, c.isDigit = true

theorem isNumber_iff_all {cs : List Char} :
    IsNumber cs ↔ cs.all (fun c => c.isDigit || c == '.') = true ∧ cs.count '.' ≤ 1 ∧
      cs.any Char.isDigit = true := by
  simp only [List.all_eq_true, Bool.or_eq_true, beq_iff_eq, List.any_eq_true]
  exact ⟨fun h => ⟨h.numerals, h.point, h.digit⟩, fun ⟨hall, hpoint, hany⟩ => ⟨hall, hpoint, hany⟩⟩

instance (cs : List Char) : Decidable (IsNumber cs) := decidable_of_iff' _ isNumber_iff_all

theorem split_point (cs : List Char) :
    (cs = wholeDigits cs ∧ fractionDigits cs = []) ∨
      cs = wholeDigits cs ++ '.' :: fractionDigits cs := by
  have hsplit := List.takeWhile_append_dropWhile (p := (· != '.')) (l := cs)
  rw [wholeDigits, fractionDigits]
  cases hrest : cs.dropWhile (· != '.') with
  | nil =>
      rw [hrest, List.append_nil] at hsplit
      exact .inl ⟨hsplit.symm, rfl⟩
  | cons c rest =>
      have hc : c = '.' := by
        have hnot := List.head_dropWhile_not (l := cs) (· != '.') (by simp [hrest])
        simpa [hrest] using hnot
      rw [hrest, hc] at hsplit
      exact .inr hsplit.symm

theorem point_not_mem_wholeDigits (cs : List Char) : '.' ∉ wholeDigits cs := by
  intro h
  simpa using List.mem_takeWhile_imp h

theorem point_not_mem_fractionDigits_iff {cs : List Char} :
    '.' ∉ fractionDigits cs ↔ cs.count '.' ≤ 1 := by
  have hwhole := List.count_eq_zero_of_not_mem (point_not_mem_wholeDigits cs)
  rw [← List.count_eq_zero]
  rcases split_point cs with ⟨hcs, hfraction⟩ | hcs
  · rw [hfraction, hcs, hwhole]
    simp
  · have hcount : cs.count '.' = (fractionDigits cs).count '.' + 1 := by
      conv_lhs => rw [hcs, List.count_append, hwhole, List.count_cons_self, Nat.zero_add]
    omega

theorem isNumber_iff {cs : List Char} :
    IsNumber cs ↔ cs ≠ [] ∧ cs ≠ ['.'] ∧ (∀ c ∈ cs, c.isDigit = true ∨ c = '.') ∧
      '.' ∉ fractionDigits cs := by
  rw [point_not_mem_fractionDigits_iff]
  constructor
  · rintro ⟨hnumerals, hpoint, d, hmem, hd⟩
    refine ⟨?_, ?_, hnumerals, hpoint⟩
    · rintro rfl
      cases hmem
    · rintro rfl
      rw [List.mem_singleton.mp hmem] at hd
      cases hd
  · rintro ⟨hne, hlone, hnumerals, hpoint⟩
    refine ⟨hnumerals, hpoint, ?_⟩
    by_contra hnone
    have hall : ∀ c ∈ cs, c = '.' := fun c hc =>
      (hnumerals c hc).resolve_left fun hd => hnone ⟨c, hc, hd⟩
    -- Points alone, and no more than one of them.
    rw [List.eq_replicate_of_mem hall, List.count_replicate_self] at hpoint
    rcases cs with _ | ⟨c, _ | ⟨c', cs⟩⟩
    · exact hne rfl
    · exact hlone (by rw [hall c List.mem_cons_self])
    · simp at hpoint

theorem IsNumber.isDigit_of_mem_fractionDigits {cs : List Char} (h : IsNumber cs) :
    ∀ d ∈ fractionDigits cs, d.isDigit = true := by
  intro d hd
  have hmem : d ∈ cs := (List.dropWhile_sublist _).mem (List.mem_of_mem_drop hd)
  refine (h.numerals d hmem).resolve_right ?_
  rintro rfl
  exact point_not_mem_fractionDigits_iff.mpr h.point hd

def numberValue (cs : List Char) : ℚ :=
  Text.decimalValue (wholeDigits cs) +
    Text.decimalValue (fractionDigits cs) / 10 ^ (fractionDigits cs).length

theorem floor_numberValue_mul (number : List Char) (unit : Nat) :
    ⌊numberValue number * unit⌋₊ = Text.decimalValue (wholeDigits number) * unit +
      Text.decimalValue (fractionDigits number) * unit / 10 ^ (fractionDigits number).length := by
  generalize hpower : 10 ^ (fractionDigits number).length = power
  have hpos : 0 < power := hpower ▸ Nat.pow_pos (by decide)
  have hvalue : numberValue number * unit =
      ((power * (Text.decimalValue (wholeDigits number) * unit) +
        Text.decimalValue (fractionDigits number) * unit : ℕ) : ℚ) / (power : ℕ) := by
    have hne : (power : ℚ) ≠ 0 := by exact_mod_cast hpos.ne'
    have hpower' : (10 : ℚ) ^ (fractionDigits number).length = power := by
      rw [← hpower]
      norm_num
    rw [numberValue, hpower']
    push_cast
    field_simp
  rw [hvalue, Nat.floor_div_eq_div, Nat.mul_add_div hpos]

/-- What the digits after the point are worth, rounded down once. -/
def fractionWorth (place : Nat) (ds : List Char) : Nat :=
  Text.decimalValue ds * place / 10 ^ ds.length

theorem fractionSum_cons (place : Nat) (d : Char) (ds : List Char) :
    fractionSum (place * 10) (d :: ds) = Text.digitValue d * place + fractionSum place ds := by
  rw [fractionSum, Nat.mul_div_cancel _ (by decide)]

theorem fractionWorth_cons (place : Nat) (d : Char) (ds : List Char) :
    fractionWorth (place * 10) (d :: ds) = Text.digitValue d * place + fractionWorth place ds := by
  have hpos : 0 < 10 ^ ds.length := Nat.pow_pos (by decide)
  rw [fractionWorth, Text.decimalValue_cons, List.length_cons, Nat.pow_succ, ← Nat.mul_assoc,
    Nat.mul_div_mul_right _ _ (by decide), Nat.add_mul, Nat.mul_right_comm, Nat.mul_comm (_ * place),
    Nat.mul_add_div hpos, fractionWorth]

/-- Rounding down digit by digit never gives more. -/
theorem fractionSum_le_fractionWorth (place : Nat) (ds : List Char) :
    fractionSum place ds ≤ fractionWorth place ds := by
  induction ds generalizing place with
  | nil => exact Nat.zero_le _
  | cons d ds ih =>
      have hcut : fractionWorth (place / 10 * 10) (d :: ds) ≤ fractionWorth place (d :: ds) :=
        Nat.div_le_div_right (Nat.mul_le_mul_left _ (Nat.div_mul_le_self place 10))
      rw [fractionWorth_cons] at hcut
      exact (Nat.add_le_add_left (ih _) _).trans hcut

/-- The two ways of rounding differ only in the digits past the `k`th, when all places up to there
are whole. -/
theorem fractionWorth_add_fractionSum_drop (c k : Nat) (ds : List Char) :
    fractionWorth (c * 10 ^ k) ds + fractionSum c (ds.drop k) =
      fractionSum (c * 10 ^ k) ds + fractionWorth c (ds.drop k) := by
  induction k generalizing ds with
  | zero => rw [Nat.pow_zero, Nat.mul_one, List.drop_zero, Nat.add_comm]
  | succ k ih =>
      cases ds with
      | nil => simp [fractionSum, fractionWorth, Text.decimalValue]
      | cons d ds =>
          have hrest := ih ds
          rw [Nat.pow_succ, ← Nat.mul_assoc, fractionSum_cons, fractionWorth_cons,
            List.drop_succ_cons]
          omega

theorem fractionWorth_lt {c : Nat} (hc : 0 < c) {ds : List Char}
    (hds : ∀ d ∈ ds, d.isDigit = true) : fractionWorth c ds < c := by
  rw [fractionWorth, Nat.div_lt_iff_lt_mul (Nat.pow_pos (by decide)), Nat.mul_comm c]
  exact Nat.mul_lt_mul_of_pos_right (Text.decimalValue_lt hds) hc

/-- A place of 36 nanoseconds is followed by one of 3 and not of 3.6. -/
theorem fractionWorth_thirtySix_le {ds : List Char} (hds : ∀ d ∈ ds, d.isDigit = true) :
    fractionWorth 36 ds ≤ fractionSum 36 ds + 8 := by
  cases ds with
  | nil => decide
  | cons d ds =>
      obtain ⟨hd, hds⟩ := List.forall_mem_cons.mp hds
      have hdigit := Text.digitValue_le hd
      have hsum : fractionSum 36 (d :: ds) = Text.digitValue d * 3 := by
        rw [fractionSum, fractionSum_of_lt_ten (by decide)]
        rfl
      have hworth : fractionWorth 36 (d :: ds) =
          (Text.digitValue d * 36 + fractionWorth 36 ds) / 10 := by
        rw [fractionWorth, Text.decimalValue_cons, List.length_cons, Nat.pow_succ,
          ← Nat.div_div_eq_div_mul, Nat.add_mul, Nat.mul_right_comm, Nat.mul_comm (_ * 36),
          Nat.mul_add_div (Nat.pow_pos (by decide)), fractionWorth]
      have hrest := fractionWorth_lt (by decide : 0 < 36) hds
      omega

namespace TimeUnit

/-- How many digits after the point stand for a whole number of nanoseconds each. -/
def places : TimeUnit → Nat
  | .nanosecond => 0
  | .microsecond => 3
  | .millisecond => 6
  | .second => 9
  | .minute => 10
  | .hour => 11

def lastPlace : TimeUnit → Nat
  | .minute => 6
  | .hour => 36
  | _ => 1

theorem nanos_eq (u : TimeUnit) : u.nanos = u.lastPlace * 10 ^ u.places := by
  cases u <;> rfl

theorem nanos_pos (u : TimeUnit) : 0 < u.nanos := by
  cases u <;> decide

/-- What is lost of a number of units: of the digits past the whole places, what they are worth
together and do not count one by one. -/
def lost (u : TimeUnit) (number : List Char) : Nat :=
  let past := (fractionDigits number).drop u.places
  fractionWorth u.lastPlace past - fractionSum u.lastPlace past

/-- Minutes and hours are no powers of ten, and have only so many digits that count in full. -/
def Resolves (u : TimeUnit) (number : List Char) : Prop :=
  match u with
  | .minute => (fractionDigits number).length ≤ 10
  | .hour => (fractionDigits number).length ≤ 11
  | _ => True

theorem lost_le {u : TimeUnit} {number : List Char} (h : IsNumber number) : u.lost number ≤ 8 := by
  have hpast : ∀ d ∈ (fractionDigits number).drop u.places, d.isDigit = true := fun d hd =>
    h.isDigit_of_mem_fractionDigits d (List.mem_of_mem_drop hd)
  rw [lost, Nat.sub_le_iff_le_add']
  cases u with
  | hour => exact fractionWorth_thirtySix_le hpast
  | minute =>
      have hworth : fractionWorth minute.lastPlace _ < 6 := fractionWorth_lt (by decide) hpast
      omega
  | nanosecond | microsecond | millisecond | second =>
      have hworth : fractionWorth 1 _ < 1 := fractionWorth_lt (by decide) hpast
      exact Nat.le_add_left_of_le (Nat.le_of_lt (hworth.trans (by decide)))

theorem Resolves.length_le {u : TimeUnit} {number : List Char} (h : u.Resolves number) :
    (fractionDigits number).length ≤ u.places ∨ u.lastPlace = 1 := by
  cases u with
  | minute | hour => exact .inl h
  | nanosecond | microsecond | millisecond | second => exact .inr rfl

theorem Resolves.lost_eq_zero {u : TimeUnit} {number : List Char} (h : u.Resolves number)
    (hnumber : IsNumber number) : u.lost number = 0 := by
  rcases h.length_le with hlength | hone
  · rw [lost, List.drop_eq_nil_of_le hlength]
    exact Nat.sub_eq_zero_of_le (by simp [fractionWorth, Text.decimalValue])
  · have hworth : fractionWorth u.lastPlace ((fractionDigits number).drop u.places) < 1 := by
      rw [hone]
      exact fractionWorth_lt (by decide) fun d hd =>
        hnumber.isDigit_of_mem_fractionDigits d (List.mem_of_mem_drop hd)
    rw [lost]
    omega

end TimeUnit

variable {number : List Char} {u : TimeUnit} {n : Nat}

/-- What a number of units is, is what is counted and what is lost. -/
theorem floor_numberValue_mul_nanos (number : List Char) (u : TimeUnit) :
    ⌊numberValue number * u.nanos⌋₊ = Text.decimalValue (wholeDigits number) * u.nanos +
      fractionSum u.nanos (fractionDigits number) + u.lost number := by
  have hdrop := fractionWorth_add_fractionSum_drop u.lastPlace u.places (fractionDigits number)
  have hle := fractionSum_le_fractionWorth u.lastPlace ((fractionDigits number).drop u.places)
  rw [← u.nanos_eq] at hdrop
  rw [floor_numberValue_mul, TimeUnit.lost, ← fractionWorth]
  omega

/-- A number of units is read as what it is, rounded down to a nanosecond, less what is lost: nothing
as long as its digits count in full, and never more than eight nanoseconds. -/
theorem scaled_add_lost (hnumber : IsNumber number) (h : scaled number u.nanos = .ok n) :
    n + u.lost number = ⌊numberValue number * u.nanos⌋₊ ∧ u.lost number ≤ 8 ∧
      (u.Resolves number → n = ⌊numberValue number * u.nanos⌋₊) := by
  obtain ⟨-, hsum, -⟩ := (scaled_eq_ok_iff u.nanos_pos).mp h
  have hexact : n + u.lost number = ⌊numberValue number * u.nanos⌋₊ := by
    rw [floor_numberValue_mul_nanos, hsum]
  refine ⟨hexact, TimeUnit.lost_le hnumber, fun hresolves => ?_⟩
  rw [← hexact, hresolves.lost_eq_zero hnumber, Nat.add_zero]

/-- The eleventh digit of an hour still counts in full. -/
theorem eleven_digits_of_an_hour :
    let number := "2.00000000001".toList
    IsNumber number ∧ scaled number TimeUnit.hour.nanos = .ok 7_200_000_000_036 ∧
      7_200_000_000_036 = ⌊numberValue number * TimeUnit.hour.nanos⌋₊ := by
  intro number
  have hnumber : IsNumber number := by decide
  have hscaled : scaled number TimeUnit.hour.nanos = .ok 7_200_000_000_036 := by decide
  have hresolves : TimeUnit.hour.Resolves number := by
    change (fractionDigits number).length ≤ 11
    decide
  obtain ⟨-, -, hexact⟩ := scaled_add_lost hnumber hscaled
  exact ⟨hnumber, hscaled, hexact hresolves⟩

/-- The eleventh digit of a minute does not: three nanoseconds are read as none. -/
theorem eleventh_digit_of_a_minute :
    let number := "0.00000000005".toList
    IsNumber number ∧ scaled number TimeUnit.minute.nanos = .ok 0 ∧
      ⌊numberValue number * TimeUnit.minute.nanos⌋₊ = 3 := by
  intro number
  refine ⟨by decide, by decide, ?_⟩
  rw [floor_numberValue_mul_nanos]
  decide

end Duration

end CronSweep
