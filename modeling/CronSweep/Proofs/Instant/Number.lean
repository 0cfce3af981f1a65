import CronSweep.Instant.Rfc3339
import Mathlib.Data.List.TakeWhile
import Mathlib.Data.Nat.Digits.Defs

namespace CronSweep.Instant

def EndsNumber (rest : List Char) : Prop := ∀ c ∈ rest.head?, c.isDigit = false

theorem endsNumber_cons {c : Char} {rest : List Char} (h : c.isDigit = false) :
    EndsNumber (c :: rest) := by
  simpa [EndsNumber] using h

theorem takeWhile_isDigit_append {ds rest : List Char} (hds : ∀ d ∈ ds, d.isDigit = true)
    (hrest : EndsNumber rest) : (ds ++ rest).takeWhile Char.isDigit = ds := by
  rw [List.takeWhile_append_of_pos hds]
  cases rest with
  | nil => simp
  | cons c rest => simp [hrest c rfl]

theorem dropWhile_isDigit_of_endsNumber {rest : List Char} (h : EndsNumber rest) :
    rest.dropWhile Char.isDigit = rest := by
  cases rest with
  | nil => rfl
  | cons c rest => simp [h c rfl]

theorem endsNumber_take {rest : List Char} (h : EndsNumber rest) (n : Nat) :
    EndsNumber (rest.take n) := by
  intro c hc
  rw [List.head?_take] at hc
  split at hc
  · cases hc
  · exact h c hc

/-- A number is read up to the limit or to the first character that is no digit. -/
theorem readNumber_append {limit : Nat} {ds rest : List Char} (hne : ds ≠ [])
    (hds : ∀ d ∈ ds, d.isDigit = true) (hle : ds.length ≤ limit)
    (hrest : ds.length = limit ∨ EndsNumber rest) :
    readNumber limit (ds ++ rest) = some (Text.decimalValue ds, rest) := by
  have hread : ((ds ++ rest).take limit).takeWhile Char.isDigit = ds := by
    rw [List.take_append, List.take_of_length_le hle]
    rcases hrest with hlimit | hrest
    · simpa [hlimit] using hds
    · exact takeWhile_isDigit_append hds (endsNumber_take hrest _)
  simp [readNumber, hread, hne]

theorem padded_ne_nil (width n : Nat) : padded width n ≠ [] := by
  simp [padded, Nat.toDigits_ne_nil]

theorem isDigit_of_mem_padded {width n : Nat} {d : Char} (h : d ∈ padded width n) :
    d.isDigit = true := by
  rcases List.mem_append.mp h with h | h
  · rw [List.eq_of_mem_replicate h]
    rfl
  · exact Nat.isDigit_of_mem_toDigits (by decide) (by decide) h

theorem length_padded {width n : Nat} (hpos : 0 < width) (hlt : n < 10 ^ width) :
    (padded width n).length = width := by
  have hle : (Nat.toDigits 10 n).length ≤ width :=
    (Nat.length_toDigits_le_iff (by decide) hpos).mpr hlt
  rw [padded, List.length_append, List.length_replicate]
  omega

theorem decimalValue_padded (width n : Nat) : Text.decimalValue (padded width n) = n := by
  change Nat.ofDigitChars 10 (padded width n) 0 = n
  rw [padded, Nat.ofDigitChars_append, Nat.ofDigitChars_replicate_zero, Nat.mul_zero]
  exact Nat.ofDigitChars_ten_toDigits

theorem readNumber_padded {width n : Nat} (hpos : 0 < width) (hlt : n < 10 ^ width)
    (rest : List Char) : readNumber width (padded width n ++ rest) = some (n, rest) := by
  have hlength := length_padded hpos hlt
  rw [readNumber_append (padded_ne_nil width n) (fun d => isDigit_of_mem_padded) hlength.le
    (.inl hlength), decimalValue_padded]

theorem isBlank_of_isDigit {c : Char} (h : c.isDigit = true) : Text.isBlank c = false := by
  have hc : 48 ≤ c.toNat ∧ c.toNat ≤ 57 := Char.isDigit_iff_toNat.mp h
  rw [Text.isBlank]
  generalize c.toNat = n at hc
  simp
  omega

theorem trimStart_cons {c : Char} {cs : List Char} (h : Text.isBlank c = false) :
    Text.trimStart (c :: cs) = c :: cs := by
  simp [Text.trimStart, h]

theorem exists_padded_eq_cons (width n : Nat) :
    ∃ d ds, padded width n = d :: ds ∧ d.isDigit = true := by
  cases hds : padded width n with
  | nil => cases padded_ne_nil width n hds
  | cons d ds =>
      have hd : d ∈ padded width n := hds ▸ List.mem_cons_self
      exact ⟨d, ds, rfl, isDigit_of_mem_padded hd⟩

theorem trimStart_padded (width n : Nat) (rest : List Char) :
    Text.trimStart (padded width n ++ rest) = padded width n ++ rest := by
  obtain ⟨d, ds, hds, hd⟩ := exists_padded_eq_cons width n
  rw [hds]
  exact trimStart_cons (isBlank_of_isDigit hd)

theorem readPair_padded {n : Nat} (h : n < 100) (rest : List Char) :
    readPair (padded 2 n ++ rest) = some (n, rest) := by
  rw [readPair, trimStart_padded]
  exact readNumber_padded (by decide) h rest

theorem readMark_cons {mark : Char} (h : Text.isBlank mark = false) (rest : List Char) :
    readMark mark (mark :: rest) = some rest := by
  simp [readMark, trimStart_cons h]

theorem readYear_yearText (year : Int) {rest : List Char} (hrest : EndsNumber rest) :
    readYear (yearText year ++ rest) = some (year, rest) := by
  -- With a sign all digits are read, without one just the four that there are.
  have hsigned (n : Nat) : readNumber (padded 4 n ++ rest).length (padded 4 n ++ rest) =
      some (n, rest) := by
    rw [readNumber_append (padded_ne_nil 4 n) (fun d => isDigit_of_mem_padded) (by simp)
      (.inr hrest), decimalValue_padded]
  by_cases hplain : 0 ≤ year ∧ year ≤ 9999
  · have hread : readNumber 4 (padded 4 year.toNat ++ rest) = some (year.toNat, rest) :=
      readNumber_padded (by decide) (by omega) rest
    obtain ⟨d, ds, hds, hd⟩ := exists_padded_eq_cons 4 year.toNat
    have hminus : d ≠ '-' := by
      rintro rfl
      cases hd
    have hplus : d ≠ '+' := by
      rintro rfl
      cases hd
    rw [yearText, if_pos hplain, readYear, trimStart_padded]
    rw [hds, List.cons_append] at hread ⊢
    simp [hminus, hplus, hread]
    omega
  · by_cases hneg : year < 0
    · rw [yearText, if_neg hplain, if_pos hneg, List.cons_append, readYear,
        trimStart_cons (by decide)]
      simp only [hsigned, Option.map_some, Option.some.injEq, Prod.mk.injEq, and_true]
      omega
    · rw [yearText, if_neg hplain, if_neg hneg, List.cons_append, readYear,
        trimStart_cons (by decide)]
      simp only [hsigned, Option.map_some, Option.some.injEq, Prod.mk.injEq, and_true]
      omega

end CronSweep.Instant
