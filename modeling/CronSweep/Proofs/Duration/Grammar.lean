import CronSweep.Proofs.Duration.Components
import CronSweep.Proofs.Instant.Number
import CronSweep.Proofs.Text.Trim

namespace CronSweep

namespace Duration

theorem ofNanos?_eq_some_iff {n : Nat} {d : Duration} : ofNanos? n = some d ↔ d.nanos = n := by
  rw [ofNanos?]
  split
  · exact ⟨fun h => by cases h; rfl, fun h => congrArg some (ext_nanos h.symm)⟩
  · next hbound =>
      simp only [reduceCtorEq, false_iff]
      rintro rfl
      exact hbound d.nanos_lt

inductive Sign
  | plus
  | minus
deriving DecidableEq

def Sign.mark : Sign → Char
  | .plus => '+'
  | .minus => '-'

/-- A duration as it is written: with a sign or without, and in parts. A zero by itself has none. -/
structure Written where
  sign : Option Sign
  parts : List Part

namespace Written

def body (w : Written) : List Char :=
  match w.parts with
  | [] => ['0']
  | p :: ps => (p :: ps).flatMap Part.text

def text (w : Written) : List Char := w.sign.toList.map Sign.mark ++ w.body

/-- The input is this and, before and after it, blanks. -/
def Fills (w : Written) (input : String) : Prop :=
  ∃ front back, input.toList = front ++ w.text ++ back ∧
    (∀ c ∈ front, Text.isBlank c = true) ∧ ∀ c ∈ back, Text.isBlank c = true

theorem exists_body_eq_cons (w : Written) : ∃ c cs, w.body = c :: cs ∧ isNumeral c = true := by
  rw [body]
  split
  · exact ⟨'0', [], rfl, rfl⟩
  · next p ps _ =>
      cases hnumber : p.number with
      | nil => cases p.number_ne_nil hnumber
      | cons c cs =>
          refine ⟨c, _, by rw [List.flatMap_cons, Part.text, hnumber]; rfl, ?_⟩
          exact p.isNumeral_of_mem c (hnumber ▸ List.mem_cons_self)

theorem body_eq_zero_iff {w : Written} : w.body = ['0'] ↔ w.parts = [] := by
  rw [body]
  split
  · next h => simp [h]
  · next p ps h =>
      have hnumber := List.length_pos_of_ne_nil p.number_ne_nil
      have hsymbol := List.length_pos_of_ne_nil (TimeUnit.toList_ne_nil_of_mem_symbols p.mem_symbols)
      rw [h]
      simp only [reduceCtorEq, iff_false]
      intro hbody
      have hlength := congrArg List.length hbody
      rw [List.flatMap_cons, Part.text, List.length_append, List.length_append,
        List.length_singleton] at hlength
      omega

theorem isBlank_of_isNumeral {c : Char} (h : isNumeral c = true) : Text.isBlank c = false := by
  rcases isNumeral_iff.mp h with hdigit | rfl
  · exact Instant.isBlank_of_isDigit hdigit
  · decide

theorem isBlank_of_mem_symbols {u : TimeUnit} {s : String} (h : s ∈ u.symbols) :
    ∀ c ∈ s.toList, Text.isBlank c = false := by
  have hall : u.symbols.all (fun s => s.toList.all fun c => !Text.isBlank c) = true := by
    cases u <;> decide
  simpa using List.all_eq_true.mp hall s h

theorem isBlank_of_mem_text (w : Written) : ∀ c ∈ w.text, Text.isBlank c = false := by
  intro c hc
  rcases List.mem_append.mp hc with hc | hc
  · obtain ⟨sign, -, rfl⟩ := List.mem_map.mp hc
    cases sign <;> decide
  · rw [body] at hc
    split at hc
    · rw [List.mem_singleton.mp hc]
      decide
    · obtain ⟨p, -, hp⟩ := List.mem_flatMap.mp hc
      rcases List.mem_append.mp hp with hp | hp
      · exact isBlank_of_isNumeral (p.isNumeral_of_mem c hp)
      · exact isBlank_of_mem_symbols p.mem_symbols c hp

theorem text_ne_nil (w : Written) : w.text ≠ [] := by
  obtain ⟨c, cs, hbody, -⟩ := w.exists_body_eq_cons
  simp [text, hbody]

theorem fills_iff {w : Written} {input : String} :
    w.Fills input ↔ Text.trim input.toList = w.text := by
  constructor
  · rintro ⟨front, back, hinput, hfront, hback⟩
    rw [hinput, Text.trim_append w.text_ne_nil w.isBlank_of_mem_text hfront hback]
  · intro h
    obtain ⟨front, back, hinput, hfront, hback⟩ := Text.exists_trim input.toList
    rw [h] at hinput
    exact ⟨front, back, hinput, hfront, hback⟩

theorem splitSign_text (w : Written) : splitSign w.text = (decide (w.sign = some .minus), w.body) := by
  obtain ⟨c, cs, hbody, hc⟩ := w.exists_body_eq_cons
  rw [text]
  cases w.sign with
  | some sign => cases sign <;> rfl
  | none =>
      have hminus : c ≠ '-' := by
        rintro rfl
        cases hc
      have hplus : c ≠ '+' := by
        rintro rfl
        cases hc
      simp [hbody, splitSign, hminus, hplus]

/-- What a text is read as. The sign is looked at once the parts are added up in 128 bits, and only
then whether the seconds fit 64 bits. -/
def reading (w : Written) : Except Fault Duration :=
  if amountBound ≤ counted w.parts then .error .overflow
  else if w.sign = some .minus ∧ 0 < counted w.parts then .error .negative
  else (ofNanos? (counted w.parts)).elim (.error .overflow) .ok

theorem parseTrimmed_text (w : Written) : parseTrimmed w.text = w.reading := by
  rw [parseTrimmed, if_neg w.text_ne_nil, splitSign_text, reading]
  by_cases hparts : w.parts = []
  · have hcounted : counted w.parts = 0 := by
      rw [hparts]
      rfl
    simp only [body_eq_zero_iff.mpr hparts, if_true, hcounted, Nat.lt_irrefl, and_false, if_false]
    rfl
  · have hzero : w.body ≠ ['0'] := mt body_eq_zero_iff.mp hparts
    have hne : w.body ≠ [] := by
      obtain ⟨c, cs, hbody, -⟩ := w.exists_body_eq_cons
      simp [hbody]
    have hbody : w.body = w.parts.flatMap Part.text := by
      rw [body]
      split
      · next hnil => cases hparts hnil
      · next p ps hcons => rw [hcons]
    simp only [hzero, hne, if_false]
    rw [hbody, sum_flatMap_text]
    by_cases hbound : amountBound ≤ counted w.parts
    · rw [inRange_of_le hbound, if_pos hbound]
      rfl
    · rw [inRange_of_lt (Nat.lt_of_not_le hbound), if_neg hbound]
      simp only [bind, Except.bind, Bool.and_eq_true, decide_eq_true_eq]
      congr 1
      cases ofNanos? (counted w.parts) <;> rfl

/-- With a sum that 128 bits hold, what matters is that the seconds fit 64 bits and the sign. -/
theorem parseTrimmed_text_eq_ok_iff {w : Written} (h : ∀ p ∈ w.parts, p.unit.Resolves p.number)
    {d : Duration} :
    parseTrimmed w.text = .ok d ↔
      d.nanos = worth w.parts ∧ (w.sign = some .minus → worth w.parts = 0) := by
  rw [parseTrimmed_text, reading, counted_eq_worth h]
  constructor
  · intro hd
    split at hd
    · cases hd
    · split at hd
      · cases hd
      · next hsign =>
          cases hd' : ofNanos? (worth w.parts) with
          | none =>
              rw [hd'] at hd
              cases hd
          | some d' =>
              rw [hd'] at hd
              cases hd
              refine ⟨ofNanos?_eq_some_iff.mp hd', fun hminus => ?_⟩
              exact Nat.eq_zero_of_not_pos fun hpos => hsign ⟨hminus, hpos⟩
  · rintro ⟨hd, hsign⟩
    have hlt : worth w.parts < amountBound := by
      rw [← hd]
      exact d.nanos_lt.trans (by decide)
    rw [if_neg (Nat.not_le.mpr hlt), if_neg fun ⟨hminus, hpos⟩ => hpos.ne' (hsign hminus),
      ofNanos?_eq_some_iff.mpr hd]
    rfl

theorem exists_splitSign (cs : List Char) :
    ∃ sign : Option Sign, cs = sign.toList.map Sign.mark ++ (splitSign cs).2 := by
  unfold splitSign
  split
  · exact ⟨some .minus, rfl⟩
  · exact ⟨some .plus, rfl⟩
  · exact ⟨none, rfl⟩

theorem exists_of_parseTrimmed_eq_ok {cs : List Char} {d : Duration} (h : parseTrimmed cs = .ok d) :
    ∃ w : Written, cs = w.text := by
  obtain ⟨sign, hsign⟩ := exists_splitSign cs
  rw [parseTrimmed] at h
  split at h
  · cases h
  · dsimp only at h
    split at h
    · next hzero =>
        rw [hzero] at hsign
        exact ⟨⟨sign, []⟩, hsign⟩
    · split at h
      · cases h
      · next hne =>
          obtain ⟨total, htotal, -⟩ := bind_eq_ok_iff.mp h
          obtain ⟨ps, hps⟩ := exists_parts_of_sum_eq_ok htotal
          rw [← hps] at hsign hne
          cases ps with
          | nil => cases hne rfl
          | cons p ps => exact ⟨⟨sign, p :: ps⟩, hsign⟩

end Written

theorem parse_eq_ok_iff {input : String} {d : Duration} :
    parse input = .ok d ↔ parseTrimmed (Text.trim input.toList) = .ok d := by
  rw [parse]
  cases parseTrimmed (Text.trim input.toList) <;> simp

/-- A text without any reading as a sign and parts is refused. Of one whose digits count in full,
the parts are added up, and the sum is the duration if there is one so long; a minus is only for
zero. -/
theorem parse_written (input : String) :
    ((¬∃ w : Written, w.Fills input) → ∃ e, parse input = .error e) ∧
      ∀ w : Written, w.Fills input → (∀ p ∈ w.parts, p.unit.Resolves p.number) →
        ((∃ d, parse input = .ok d) ↔
          worth w.parts < 18_446_744_073_709_551_616 * 1_000_000_000 ∧
            (w.sign ≠ some .minus ∨ worth w.parts = 0)) ∧
        ∀ d, parse input = .ok d → d.nanos = worth w.parts := by
  constructor
  · intro hnone
    cases h : parse input with
    | error e => exact ⟨e, rfl⟩
    | ok d =>
        obtain ⟨w, hw⟩ := Written.exists_of_parseTrimmed_eq_ok (parse_eq_ok_iff.mp h)
        exact absurd ⟨w, Written.fills_iff.mpr hw⟩ hnone
  · intro w hfills hresolves
    have hok : ∀ d, parse input = .ok d ↔
        d.nanos = worth w.parts ∧ (w.sign = some .minus → worth w.parts = 0) := by
      intro d
      rw [parse_eq_ok_iff, Written.fills_iff.mp hfills]
      exact Written.parseTrimmed_text_eq_ok_iff hresolves
    refine ⟨⟨?_, ?_⟩, fun d hd => ((hok d).mp hd).1⟩
    · rintro ⟨d, hd⟩
      obtain ⟨hnanos, hsign⟩ := (hok d).mp hd
      exact ⟨hnanos ▸ d.nanos_lt, Classical.or_iff_not_imp_left.mpr fun h => hsign (not_not.mp h)⟩
    · rintro ⟨hlt, hsign⟩
      exact ⟨⟨worth w.parts, hlt⟩,
        (hok _).mpr ⟨rfl, fun hminus => hsign.resolve_left (not_not.mpr hminus)⟩⟩

def hourAndHalf : Written where
  sign := some .plus
  parts := [⟨"1".toList, .hour, "h", by decide, by decide⟩,
    ⟨".5".toList, .microsecond, "\u03bcs", by decide, by decide⟩]

/-- Wide blanks go unnoticed, and a word is no duration. -/
theorem hourAndHalf_parsed :
    hourAndHalf.Fills "\u2003+1h.5\u03bcs\u3000" ∧
      (∃ d, parse "\u2003+1h.5\u03bcs\u3000" = .ok d ∧ d.nanos = 3_600_000_000_500) ∧
      (¬∃ w : Written, w.Fills "hour") ∧ ∃ e, parse "hour" = .error e := by
  have hfills : hourAndHalf.Fills "\u2003+1h.5\u03bcs\u3000" :=
    ⟨['\u2003'], ['\u3000'], by decide, List.forall_mem_singleton.mpr rfl,
      List.forall_mem_singleton.mpr rfl⟩
  have hresolves : ∀ p ∈ hourAndHalf.parts, p.unit.Resolves p.number := by
    simp [hourAndHalf, TimeUnit.Resolves, fractionDigits]
  have hworth : worth hourAndHalf.parts = 3_600_000_000_500 := by
    simp only [worth, hourAndHalf, List.map_cons, List.map_nil, Part.nanos,
      floor_numberValue_mul_nanos]
    decide
  have hword : ¬∃ w : Written, w.Fills "hour" := by
    rintro ⟨w, hw⟩
    obtain ⟨c, cs, hbody, hc⟩ := w.exists_body_eq_cons
    have htrim : Text.trim "hour".toList = ['h', 'o', 'u', 'r'] := by decide
    have htext : ['h', 'o', 'u', 'r'] = w.sign.toList.map Sign.mark ++ c :: cs := by
      rw [← htrim, Written.fills_iff.mp hw, Written.text, hbody]
    rcases hsign : w.sign with _ | sign
    · rw [hsign] at htext
      cases htext
      cases hc
    · rw [hsign] at htext
      cases sign <;> cases htext
  obtain ⟨hok, hnanos⟩ := (parse_written _).2 hourAndHalf hfills hresolves
  obtain ⟨d, hd⟩ := hok.mpr ⟨by rw [hworth]; decide, .inl (by decide)⟩
  exact ⟨hfills, ⟨d, hd, (hnanos d hd).trans hworth⟩, hword, (parse_written "hour").1 hword⟩

end Duration

end CronSweep
