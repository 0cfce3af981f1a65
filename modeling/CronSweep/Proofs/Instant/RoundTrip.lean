import CronSweep.Proofs.Calendar.DayNumber
import CronSweep.Proofs.Instant.Number

namespace CronSweep.Instant

def IsWhole (t : Instant) : Prop := t.nano % 1_000_000_000 = 0

theorem monthLength_le (leap : Bool) (i : Nat) :
    ((Calendar.monthLengths leap)[i]?).getD 0 ≤ 31 := by
  have hall : ∀ l ∈ Calendar.monthLengths leap, l ≤ 31 := by cases leap <;> decide
  cases hl : (Calendar.monthLengths leap)[i]? with
  | none => exact Nat.zero_le 31
  | some l => exact hall l (List.mem_of_getElem? hl)

theorem readDate_dateText {d : Calendar.Date} (h : d.IsValid) (rest : List Char) :
    readDate (dateText d ++ rest) = some (d, rest) := by
  have hmonth : d.month < 100 := by
    have := h.2.1
    omega
  have hday : d.day < 100 := by
    have := h.2.2.2.trans (monthLength_le _ _)
    omega
  simp only [readDate, dateText, List.append_assoc, List.cons_append,
    readYear_yearText d.year (endsNumber_cons (show '-'.isDigit = false by decide)),
    readMark_cons (show Text.isBlank '-' = false by decide), readPair_padded hmonth,
    readPair_padded hday, Option.bind_eq_bind, Option.bind_some, if_pos h]

theorem readFraction_padded {width n : Nat} (hpos : 0 < width) (hle : width ≤ 9)
    (hlt : n < 10 ^ width) {rest : List Char} (hrest : EndsNumber rest) :
    readFraction ('.' :: (padded width n ++ rest)) = some (n * 10 ^ (9 - width), rest) := by
  have hlength := length_padded hpos hlt
  have hread : readNumber 9 (padded width n ++ rest) = some (n, rest) := by
    rw [readNumber_append (padded_ne_nil width n) (fun d => isDigit_of_mem_padded) (by omega)
      (.inr hrest), decimalValue_padded]
  simp [readFraction, hread, hlength, dropWhile_isDigit_of_endsNumber hrest]

/-- The written part of a second is read as the whole part of a second that the time has. -/
def Shows (precision : Precision) (t : Instant) : Prop :=
  readFraction (fractionText precision t ++ ['Z']) = some (t.nano % 1_000_000_000, ['Z'])

theorem shows_exactly (t : Instant) : Shows .exactly t := by
  have hrest : EndsNumber ['Z'] := endsNumber_cons (by decide)
  have hlt : t.nano % 1_000_000_000 < 1_000_000_000 := Nat.mod_lt _ (by decide)
  simp only [Shows, fractionText]
  generalize t.nano % 1_000_000_000 = n at hlt
  split
  · simp [readFraction, *]
  -- From here on each case writes as many digits as its number can have.
  · split
    · rw [List.cons_append, readFraction_padded (by decide) (by decide) (by omega) hrest]
      simp
      omega
    · split
      · rw [List.cons_append, readFraction_padded (by decide) (by decide) (by omega) hrest]
        simp
        omega
      · rw [List.cons_append, readFraction_padded (by decide) (by decide) hlt hrest]
        simp

theorem shows_seconds {t : Instant} (h : t.IsWhole) : Shows .seconds t := by
  rw [IsWhole] at h
  simp [Shows, fractionText, readFraction, h]

theorem timeOfDay_lt (t : Instant) : t.timeOfDay.toNat < 86400 := by
  rw [timeOfDay]
  omega

/-- A leap second is written at second 59 of its minute. -/
theorem leap_spec (t : Instant) :
    t.nano / 1_000_000_000 = 0 ∨
      (t.nano / 1_000_000_000 = 1 ∧ t.timeOfDay.toNat % 60 = 59) := by
  have hlt := t.nano_lt
  rw [timeOfDay]
  omega

theorem readClock_clockText {precision : Precision} {t : Instant} (h : Shows precision t) :
    readClock (clockText t ++ (fractionText precision t ++ ['Z'])) =
      some ((t.timeOfDay.toNat, t.nano), ['Z']) := by
  have hday := timeOfDay_lt t
  have hleap := leap_spec t
  rw [Shows] at h
  simp only [clockText]
  generalize t.timeOfDay.toNat = s at hday hleap
  have hhour : s / 3600 < 100 := by omega
  have hminute : s / 60 % 60 < 100 := by omega
  have hsecond : s % 60 + t.nano / 1_000_000_000 < 100 := by omega
  simp only [readClock, List.append_assoc, List.cons_append, readPair_padded hhour,
    readMark_cons (show Text.isBlank ':' = false by decide), readPair_padded hminute,
    readPair_padded hsecond, h, Option.bind_eq_bind, Option.bind_some]
  rw [if_pos (by omega)]
  rcases hleap with hplain | ⟨hleap, hlast⟩
  · rw [if_neg (by omega)]
    simp only [Option.some.injEq, Prod.mk.injEq, and_true]
    omega
  · rw [if_pos (by omega)]
    simp only [Option.some.injEq, Prod.mk.injEq, and_true]
    omega

theorem ofParts?_eq_some (t : Instant) : ofParts? t.second t.nano = some t := by
  rw [ofParts?, dif_pos ⟨t.nano_lt, t.earliest_le, t.le_latest⟩]

theorem ofText?_text {precision : Precision} {t : Instant} (h : Shows precision t) :
    ofText? (t.text precision) = some t := by
  obtain ⟨hvalid, hday⟩ := Calendar.Date.ofDayNumber_spec (t.second / 86400)
  have hsecond : t.second / 86400 * 86400 + (t.timeOfDay.toNat : Int) = t.second := by
    rw [timeOfDay]
    omega
  have hclock : readClock (clockText t ++ fractionText precision t ++ ['Z']) =
      some ((t.timeOfDay.toNat, t.nano), ['Z']) := by
    rw [List.append_assoc, readClock_clockText h]
  have hoffset : readOffset ['Z'] = some (0, []) := rfl
  have hend : Text.trimStart [] = [] := rfl
  rw [ofText?, text, String.toList_ofList, read, chars, readDate_dateText hvalid]
  unfold guard
  simp only [Option.bind_eq_bind, Option.bind_some, true_or, if_true, hclock, hoffset, hend, hday,
    hsecond, Int.sub_zero, ofParts?_eq_some, pure]

end CronSweep.Instant
