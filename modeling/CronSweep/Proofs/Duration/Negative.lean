import CronSweep.Proofs.Duration.Grammar

namespace CronSweep

/-- A spec with this text is refused with one of these errors, as the text is its run interval or the
threshold of an enabled stuck cleanup. -/
def Policy.Refuses (input : String) (interval threshold : SpecError) : Prop :=
  ∀ spec : Spec, (spec.runInterval = input → runInterval? spec = .error interval) ∧
    (spec.cleanupStuck = ⟨true, input⟩ → stuckAfter? spec = .error threshold)

theorem Policy.refuses_of_fault {input : String} {fault : Duration.Fault}
    (h : Duration.parse input = .error ⟨fault, input⟩) :
    Refuses input
      (if fault = .negative then .runIntervalTooShort else .runIntervalUnparsable ⟨fault, input⟩)
      (if fault = .negative ∨ fault = .empty then .stuckAfterTooShort
        else .stuckAfterUnparsable ⟨fault, input⟩) := by
  intro spec
  constructor
  · intro hspec
    rw [runInterval?, hspec, h]
    cases fault <;> rfl
  · intro hspec
    rw [stuckAfter?, hspec]
    cases fault <;> simp [h]

namespace Duration

theorem Written.parse_of_fills {w : Written} {input : String} (h : w.Fills input) :
    parse input = w.reading.mapError (⟨·, input⟩) := by
  rw [parse, fills_iff.mp h, parseTrimmed_text]
  cases w.reading <;> rfl

variable {ps : List Part}

theorem counted_pos_iff : 0 < counted ps ↔ ∃ p ∈ ps, 1 ≤ p.counted := by
  rw [counted, List.sum_pos_iff_exists_pos_nat]
  simp [Nat.one_le_iff_ne_zero, Nat.pos_iff_ne_zero]

theorem counted_eq_zero_iff : counted ps = 0 ↔ ∀ p ∈ ps, p.counted = 0 := by
  rw [counted, List.sum_eq_zero_iff_forall_eq_nat, List.forall_mem_map]

/-- With a minus the parts are added up first. Where 128 bits do not hold the sum the text overflows,
negative as it is; else it is negative as soon as one part counts a nanosecond, and zero like the text
without the minus when none does. -/
theorem parse_of_minus {input : String} (h : Written.Fills ⟨some .minus, ps⟩ input) :
    (∀ p ∈ ps, p.counted + p.unit.lost p.number = p.nanos ∧
      (p.unit.Resolves p.number → p.counted = p.nanos)) ∧
    (amountBound ≤ counted ps → parse input = .error ⟨.overflow, input⟩ ∧
      Policy.Refuses input (.runIntervalUnparsable ⟨.overflow, input⟩)
        (.stuckAfterUnparsable ⟨.overflow, input⟩)) ∧
    (counted ps < amountBound → (∃ p ∈ ps, 1 ≤ p.counted) →
      parse input = .error ⟨.negative, input⟩ ∧
      Policy.Refuses input .runIntervalTooShort .stuckAfterTooShort) ∧
    ((∀ p ∈ ps, p.counted = 0) → parse input = .ok zero ∧
      ∀ plain, Written.Fills ⟨none, ps⟩ plain → parse plain = .ok zero) := by
  have hparse := Written.parse_of_fills h
  rw [Written.reading] at hparse
  refine ⟨fun p _ => ⟨p.counted_add_lost, Part.counted_eq_nanos⟩, ?_, ?_, ?_⟩
  · intro hbound
    rw [if_pos hbound] at hparse
    exact ⟨hparse, Policy.refuses_of_fault hparse⟩
  · intro hbound hsome
    rw [if_neg (Nat.not_le.mpr hbound), if_pos ⟨rfl, counted_pos_iff.mpr hsome⟩] at hparse
    exact ⟨hparse, Policy.refuses_of_fault hparse⟩
  · intro hnone
    have hzero := counted_eq_zero_iff.mpr hnone
    have hreading (sign : Option Sign) : Written.reading ⟨sign, ps⟩ = .ok zero := by
      simp only [Written.reading, hzero, Nat.lt_irrefl, and_false, if_false]
      rfl
    refine ⟨?_, fun plain hplain => ?_⟩
    · rw [Written.parse_of_fills h, hreading]
      rfl
    · rw [Written.parse_of_fills hplain, hreading]
      rfl

/-- One nanosecond more than 128 bits hold. -/
def vast : Part :=
  ⟨"340282366920938463463374607431768211456".toList, .nanosecond, "ns", by decide, by decide⟩

def speck : Part := ⟨"0.4".toList, .nanosecond, "ns", by decide, by decide⟩

/-- Three nanoseconds, of which none is counted. -/
def sliver : Part := ⟨"0.00000000005".toList, .minute, "m", by decide, by decide⟩

theorem minus_read :
    Written.Fills ⟨some .minus, hourAndHalf.parts⟩ "\u2003-1h.5\u03bcs" ∧
      counted hourAndHalf.parts < amountBound ∧ (∃ p ∈ hourAndHalf.parts, 1 ≤ p.counted) ∧
      parse "\u2003-1h.5\u03bcs" = .error ⟨.negative, "\u2003-1h.5\u03bcs"⟩ ∧
      Policy.Refuses "\u2003-1h.5\u03bcs" .runIntervalTooShort .stuckAfterTooShort ∧
      Written.Fills ⟨some .minus, [vast]⟩ "-340282366920938463463374607431768211456ns" ∧
      amountBound ≤ counted [vast] ∧
      parse "-340282366920938463463374607431768211456ns" =
        .error ⟨.overflow, "-340282366920938463463374607431768211456ns"⟩ ∧
      Written.Fills ⟨some .minus, [speck]⟩ "-0.4ns" ∧ (∀ p ∈ [speck], p.counted = 0) ∧
      parse "-0.4ns" = .ok zero ∧
      Written.Fills ⟨none, [speck]⟩ "0.4ns" ∧ parse "0.4ns" = .ok zero := by
  have hhour : Written.Fills ⟨some .minus, hourAndHalf.parts⟩ "\u2003-1h.5\u03bcs" :=
    ⟨['\u2003'], [], by decide, List.forall_mem_singleton.mpr rfl, nofun⟩
  have hvast : Written.Fills ⟨some .minus, [vast]⟩ "-340282366920938463463374607431768211456ns" :=
    ⟨[], [], by decide, nofun, nofun⟩
  have hspeck : Written.Fills ⟨some .minus, [speck]⟩ "-0.4ns" :=
    ⟨[], [], by decide, nofun, nofun⟩
  have hplain : Written.Fills ⟨none, [speck]⟩ "0.4ns" := ⟨[], [], by decide, nofun, nofun⟩
  have hbound : counted hourAndHalf.parts < amountBound := by decide
  have hsome : ∃ p ∈ hourAndHalf.parts, 1 ≤ p.counted := ⟨_, List.mem_cons_self, by decide⟩
  have hover : amountBound ≤ counted [vast] := by decide
  have hnone : ∀ p ∈ [speck], p.counted = 0 := by decide
  obtain ⟨-, -, hnegative, -⟩ := parse_of_minus hhour
  obtain ⟨-, hoverflow, -, -⟩ := parse_of_minus hvast
  obtain ⟨-, -, -, hzero⟩ := parse_of_minus hspeck
  obtain ⟨hminus, hrefused⟩ := hnegative hbound hsome
  exact ⟨hhour, hbound, hsome, hminus, hrefused, hvast, hover, (hoverflow hover).1, hspeck, hnone,
    (hzero hnone).1, hplain, (hzero hnone).2 _ hplain⟩

/-- An amount too great for 128 bits is not called negative, nor is one that is lost in the digits of a
minute. -/
theorem negative_unnoticed :
    (1 ≤ vast.nanos ∧ Written.text ⟨some .minus, [vast]⟩ =
        "-340282366920938463463374607431768211456ns".toList ∧
      parse "-340282366920938463463374607431768211456ns" =
        .error ⟨.overflow, "-340282366920938463463374607431768211456ns"⟩) ∧
      1 ≤ sliver.nanos ∧ Written.text ⟨some .minus, [sliver]⟩ = "-0.00000000005m".toList ∧
      parse "-0.00000000005m" = .ok zero := by
  have hvast : 1 ≤ vast.nanos := by
    rw [← vast.counted_add_lost]
    decide
  have hsliver : 1 ≤ sliver.nanos := by
    rw [← sliver.counted_add_lost]
    decide
  exact ⟨⟨hvast, by decide, by decide⟩, hsliver, by decide, by decide⟩

end Duration

end CronSweep
