import CronSweep.Metrics

namespace CronSweep.Metrics

def counterLine (x : Sample) : String := series (counter x).1 (counter x).2

def ofDeletion : Sample → Bool
  | .deleted _ | .deleteFailed _ => true
  | .cycle _ | .request _ _ _ => false

def raised (samples : List Sample) (line : String) : Nat := ((growth samples).lookup line).getD 0

theorem lookup_raise (entries : List (String × Nat)) (a line : String) :
    (entries.map fun e => if e.1 = a then (e.1, e.2 + 1) else e).lookup line =
      if line = a then (entries.lookup line).map (· + 1) else entries.lookup line := by
  induction entries with
  | nil => simp
  | cons e entries ih =>
      obtain ⟨key, n⟩ := e
      by_cases hline : line = key
      · subst hline
        by_cases ha : line = a <;> simp [ha]
      · have hskip (m : Nat) (es : List (String × Nat)) :
            ((key, m) :: es).lookup line = es.lookup line := by
          rw [List.lookup_cons, beq_false_of_ne hline]
        by_cases ha : key = a
        · simp only [List.map_cons, if_pos ha, hskip, ih]
        · simp only [List.map_cons, if_neg ha, hskip, ih]

/-- A line that occurs stands in the tally once, with the number of times it occurs. -/
theorem lookup_tally (lines : List String) (line : String) :
    (tally lines).lookup line = if line ∈ lines then some (lines.count line) else none := by
  induction lines generalizing line with
  | nil => rfl
  | cons a lines ih =>
      by_cases ha : a ∈ lines
      · have hold : (tally lines).lookup a = some (lines.count a) := by
          rw [ih, if_pos ha]
        rw [tally, hold]
        dsimp only
        rw [lookup_raise, ih]
        by_cases hline : line = a
        · subst hline
          simp [ha]
        · simp [hline, List.count_cons_of_ne (Ne.symm hline)]
      · have hnew : (tally lines).lookup a = none := by
          rw [ih, if_neg ha]
        rw [tally, hnew]
        dsimp only
        by_cases hline : line = a
        · subst hline
          simp [List.count_eq_zero_of_not_mem ha]
        · rw [List.lookup_cons, beq_false_of_ne hline, ih]
          simp [hline, List.count_cons_of_ne (Ne.symm hline)]

theorem raised_eq_count (samples : List Sample) (line : String) :
    raised samples line = (samples.flatMap totals).count line := by
  rw [raised, growth, lookup_tally]
  split
  · rfl
  · next h => exact (List.count_eq_zero_of_not_mem h).symm

theorem head?_series (name : String) (labels : List (String × String)) {c : Char}
    (h : name.toList.head? = some c) : (series name labels).toList.head? = some c := by
  rw [series]
  split
  · exact h
  · simp [h]

/-- Deletions are not counted on the lines of requests. -/
theorem counterLine_not_mem_totals_request {x : Sample} (hx : ofDeletion x = true)
    (method path : String) (status : Nat) :
    counterLine x ∉ totals (.request method path status) := by
  have hhead : (counterLine x).toList.head? = some 'c' := by
    cases x with
    | deleted c | deleteFailed c => cases c <;> decide
    | cycle | request => cases hx
  have htotal : "http_requests_total".toList.head? = some 'h' := by decide
  have hcount : ("http_requests_duration_seconds" ++ "_count").toList.head? = some 'h' := by decide
  intro hmem
  rcases List.mem_cons.mp hmem with heq | hmem
  · rw [heq, counter, head?_series _ _ htotal] at hhead
    cases hhead
  · rw [List.mem_singleton.mp hmem, head?_series _ _ hcount] at hhead
    cases hhead

theorem count_counterLine_totals {x : Sample} (hx : ofDeletion x = true) (y : Sample) :
    (totals y).count (counterLine x) = if y = x then 1 else 0 := by
  cases y with
  | request method path status =>
      rw [List.count_eq_zero_of_not_mem (counterLine_not_mem_totals_request hx method path status),
        if_neg]
      rintro rfl
      cases hx
  | deleted d | deleteFailed d =>
      cases x with
      | deleted c | deleteFailed c => cases c <;> cases d <;> decide
      | cycle | request => cases hx
  | cycle e =>
      cases x with
      | deleted c | deleteFailed c => cases c <;> cases e <;> decide
      | cycle | request => cases hx

/-- The line of a deletion is raised by the samples of its kind and no others. -/
theorem raised_counterLine {x : Sample} (hx : ofDeletion x = true) (samples : List Sample) :
    raised samples (counterLine x) = samples.count x := by
  rw [raised_eq_count]
  induction samples with
  | nil => rfl
  | cons y samples ih =>
      rw [List.flatMap_cons, List.count_append, count_counterLine_totals hx, ih, List.count_cons,
        Nat.add_comm]
      simp

end CronSweep.Metrics
