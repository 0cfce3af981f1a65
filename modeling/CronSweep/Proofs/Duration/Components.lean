import CronSweep.Proofs.Duration.Number

namespace CronSweep.Duration

theorem isNumeral_iff {c : Char} : isNumeral c = true ↔ c.isDigit = true ∨ c = '.' := by
  simp [isNumeral]

def Component.text (k : Component) : List Char := k.number ++ k.unit

/-- Cutting a text up loses nothing of it. -/
theorem flatMap_components (cs : List Char) : (components cs).flatMap Component.text = cs := by
  induction cs with
  | nil => rfl
  | cons c cs ih =>
      rw [components]
      cases hks : components cs with
      | nil =>
          rw [hks] at ih
          by_cases hc : isNumeral c = true <;> simp [hc, ← ih, Component.text]
      | cons k ks =>
          rw [hks] at ih
          by_cases hc : isNumeral c = true
          · simp [hc, ← ih, Component.text]
          · by_cases hk : k.number = [] <;> simp [hc, hk, ← ih, Component.text]

theorem isNumeral_of_mem_components {cs : List Char} :
    ∀ k ∈ components cs, ∀ c ∈ k.number, isNumeral c = true := by
  induction cs with
  | nil => nofun
  | cons c cs ih =>
      rw [components]
      cases hks : components cs with
      | nil => by_cases hc : isNumeral c = true <;> simp [hc]
      | cons k ks =>
          rw [hks, List.forall_mem_cons] at ih
          obtain ⟨hk, hks⟩ := ih
          by_cases hc : isNumeral c = true
          · simpa [hc] using ⟨hk, hks⟩
          · by_cases hempty : k.number = []
            · simpa [hc, hempty] using hks
            · simpa [hc, hempty] using ⟨hk, hks⟩

/-- A run of other characters ends where the next component has a number. -/
theorem components_symbol {symbol rest : List Char} (hne : symbol ≠ [])
    (hsymbol : ∀ c ∈ symbol, isNumeral c = false)
    (hrest : ∀ k ∈ (components rest).head?, k.number ≠ []) :
    components (symbol ++ rest) = ⟨[], symbol⟩ :: components rest := by
  induction symbol with
  | nil => cases hne rfl
  | cons c symbol ih =>
      obtain ⟨hc, hsymbol⟩ := List.forall_mem_cons.mp hsymbol
      cases symbol with
      | nil =>
          rw [List.singleton_append, components]
          cases hks : components rest with
          | nil => simp [hc]
          | cons k ks => simp [hc, hrest k (by rw [hks]; rfl)]
      | cons c' symbol =>
          rw [List.cons_append, components, ih (by simp) hsymbol]
          simp [hc]

theorem components_number {number rest unit : List Char} {ks : List Component}
    (hnumber : ∀ c ∈ number, isNumeral c = true) (hrest : components rest = ⟨[], unit⟩ :: ks) :
    components (number ++ rest) = ⟨number, unit⟩ :: ks := by
  induction number with
  | nil => exact hrest
  | cons c number ih =>
      obtain ⟨hc, hnumber⟩ := List.forall_mem_cons.mp hnumber
      rw [List.cons_append, components, ih hnumber]
      simp [hc]

def TimeUnit.symbols : TimeUnit → List String
  | .nanosecond => ["ns"]
  | .microsecond => ["us", "\u00b5s", "\u03bcs"]
  | .millisecond => ["ms"]
  | .second => ["s"]
  | .minute => ["m"]
  | .hour => ["h"]

theorem TimeUnit.ofSymbol?_eq_some_iff {cs : List Char} {u : TimeUnit} :
    ofSymbol? cs = some u ↔ String.ofList cs ∈ u.symbols := by
  constructor
  · intro h
    unfold ofSymbol? at h
    split at h <;> cases h <;> decide
  · intro h
    cases u <;> simp only [symbols, List.mem_cons, List.not_mem_nil, or_false] at h
    case microsecond =>
      rcases h with h | h | h <;> rw [← String.toList_ofList (l := cs), h] <;> rfl
    all_goals
      rw [← String.toList_ofList (l := cs), h]
      rfl

theorem TimeUnit.toList_ne_nil_of_mem_symbols {u : TimeUnit} {s : String} (h : s ∈ u.symbols) :
    s.toList ≠ [] := by
  revert s
  cases u <;> decide

theorem TimeUnit.isNumeral_of_mem_symbols {u : TimeUnit} {s : String} (h : s ∈ u.symbols) :
    ∀ c ∈ s.toList, isNumeral c = false := by
  have hall : u.symbols.all (fun s => s.toList.all fun c => !isNumeral c) = true := by
    cases u <;> decide
  simpa using List.all_eq_true.mp hall s h

structure Part where
  number : List Char
  unit : TimeUnit
  symbol : String
  isNumber : IsNumber number
  mem_symbols : symbol ∈ unit.symbols

namespace Part

def component (p : Part) : Component := ⟨p.number, p.symbol.toList⟩

def text (p : Part) : List Char := p.number ++ p.symbol.toList

/-- What a part is worth, rounded down to a nanosecond. -/
def nanos (p : Part) : Nat := ⌊numberValue p.number * p.unit.nanos⌋₊

theorem number_ne_nil (p : Part) : p.number ≠ [] := (isNumber_iff.mp p.isNumber).1

theorem isNumeral_of_mem (p : Part) : ∀ c ∈ p.number, isNumeral c = true := fun c hc =>
  isNumeral_iff.mpr (p.isNumber.numerals c hc)

def counted (p : Part) : Nat := countedUnits p.number p.unit.nanos

theorem counted_add_lost (p : Part) : p.counted + p.unit.lost p.number = p.nanos :=
  (floor_numberValue_mul_nanos p.number p.unit).symm

theorem counted_eq_nanos {p : Part} (h : p.unit.Resolves p.number) : p.counted = p.nanos := by
  rw [← p.counted_add_lost, h.lost_eq_zero p.isNumber, Nat.add_zero]

theorem nanos_component (p : Part) : p.component.nanos = inRange p.counted := by
  obtain ⟨hne, hlone, -, hpoint⟩ := isNumber_iff.mp p.isNumber
  have hsymbol : p.symbol.toList ≠ [] := TimeUnit.toList_ne_nil_of_mem_symbols p.mem_symbols
  have hunit : TimeUnit.ofSymbol? p.symbol.toList = some p.unit := by
    rw [TimeUnit.ofSymbol?_eq_some_iff, String.ofList_toList]
    exact p.mem_symbols
  rw [counted, ← scaled_eq_inRange p.unit.nanos_pos hpoint, Component.nanos, component]
  simp [hne, hlone, hsymbol, hunit]

/-- Nothing but a part has an amount. -/
theorem exists_of_nanos_eq_ok {k : Component} (hnumerals : ∀ c ∈ k.number, isNumeral c = true)
    {n : Nat} (h : k.nanos = .ok n) : ∃ p : Part, p.component = k := by
  rw [Component.nanos] at h
  split at h
  · cases h
  · next hnumber =>
      split at h
      · cases h
      · cases hunit : TimeUnit.ofSymbol? k.unit with
        | none => simp [hunit] at h
        | some u =>
            simp only [hunit] at h
            obtain ⟨hpoint, -, -⟩ := (scaled_eq_ok_iff u.nanos_pos).mp h
            have hisNumber : IsNumber k.number := isNumber_iff.mpr
              ⟨fun hnil => hnumber (.inl hnil), fun hlone => hnumber (.inr hlone),
                fun c hc => isNumeral_iff.mp (hnumerals c hc), hpoint⟩
            refine ⟨⟨k.number, u, String.ofList k.unit, hisNumber,
              TimeUnit.ofSymbol?_eq_some_iff.mp hunit⟩, ?_⟩
            rw [component, String.toList_ofList]

theorem components_flatMap_text (ps : List Part) :
    components (ps.flatMap text) = ps.map component := by
  induction ps with
  | nil => rfl
  | cons p ps ih =>
      have hrest : ∀ k ∈ (components (ps.flatMap text)).head?, k.number ≠ [] := by
        rw [ih]
        cases ps with
        | nil => nofun
        | cons q ps =>
            rintro k ⟨⟩
            exact q.number_ne_nil
      have hsymbol := components_symbol (TimeUnit.toList_ne_nil_of_mem_symbols p.mem_symbols)
        (TimeUnit.isNumeral_of_mem_symbols p.mem_symbols) hrest
      rw [List.flatMap_cons, text, List.append_assoc,
        components_number p.isNumeral_of_mem hsymbol, ih]
      rfl

end Part

theorem addComponent_eq_ok_iff {total n : Nat} {k : Component} :
    addComponent total k = .ok n ↔ ∃ m, k.nanos = .ok m ∧ total + m = n ∧ n < amountBound := by
  simp only [addComponent, bind_eq_ok_iff, inRange_eq_ok_iff]
  constructor
  · rintro ⟨m, hm, rfl, hlt⟩
    exact ⟨m, hm, rfl, hlt⟩
  · rintro ⟨m, hm, rfl, hlt⟩
    exact ⟨m, hm, rfl, hlt⟩

def worth (ps : List Part) : Nat := (ps.map Part.nanos).sum

def counted (ps : List Part) : Nat := (ps.map Part.counted).sum

theorem counted_eq_worth {ps : List Part} (h : ∀ p ∈ ps, p.unit.Resolves p.number) :
    counted ps = worth ps :=
  congrArg List.sum (List.map_congr_left fun p hp => Part.counted_eq_nanos (h p hp))

theorem addComponent_component (total : Nat) (p : Part) :
    addComponent total p.component = inRange (total + p.counted) := by
  rw [addComponent, p.nanos_component]
  exact inRange_bind (Nat.le_add_left _ _) fun _ => rfl

theorem foldlM_addComponent (ps : List Part) {total : Nat} (h : total < amountBound) :
    (ps.map Part.component).foldlM addComponent total = inRange (total + counted ps) := by
  induction ps generalizing total with
  | nil => exact (inRange_of_lt h).symm
  | cons p ps ih =>
      rw [List.map_cons, List.foldlM_cons, addComponent_component, counted, List.map_cons,
        List.sum_cons, ← counted, ← Nat.add_assoc]
      exact inRange_bind (Nat.le_add_right _ _) ih

theorem exists_parts_of_foldlM_eq_ok {ks : List Component}
    (hnumerals : ∀ k ∈ ks, ∀ c ∈ k.number, isNumeral c = true) {total n : Nat}
    (h : ks.foldlM addComponent total = .ok n) : ∃ ps : List Part, ps.map Part.component = ks := by
  induction ks generalizing total with
  | nil => exact ⟨[], rfl⟩
  | cons k ks ih =>
      obtain ⟨hk, hks⟩ := List.forall_mem_cons.mp hnumerals
      rw [List.foldlM_cons, bind_eq_ok_iff] at h
      obtain ⟨total', hadd, hrest⟩ := h
      obtain ⟨m, hm, -, -⟩ := addComponent_eq_ok_iff.mp hadd
      obtain ⟨p, hp⟩ := Part.exists_of_nanos_eq_ok hk hm
      obtain ⟨ps, hps⟩ := ih hks hrest
      exact ⟨p :: ps, by rw [List.map_cons, hp, hps]⟩

/-- The sum of the parts is what they are counted as, if 128 bits hold it. -/
theorem sum_flatMap_text (ps : List Part) : sum (ps.flatMap Part.text) = inRange (counted ps) := by
  rw [sum, Part.components_flatMap_text, foldlM_addComponent ps (by decide), Nat.zero_add]

/-- Only a sequence of parts has a sum. -/
theorem exists_parts_of_sum_eq_ok {cs : List Char} {n : Nat} (h : sum cs = .ok n) :
    ∃ ps : List Part, ps.flatMap Part.text = cs := by
  obtain ⟨ps, hps⟩ := exists_parts_of_foldlM_eq_ok isNumeral_of_mem_components h
  refine ⟨ps, ?_⟩
  calc ps.flatMap Part.text
    _ = (ps.map Part.component).flatMap Component.text := by rw [List.flatMap_map]; rfl
    _ = cs := by rw [hps, flatMap_components]

end CronSweep.Duration
