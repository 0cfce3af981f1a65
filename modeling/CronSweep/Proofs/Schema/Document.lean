import CronSweep.Proofs.Json.Coding
import CronSweep.Proofs.Json.Sorted
import Mathlib.Algebra.Order.Ring.Rat
import Mathlib.Tactic.MkIffOfInductiveProp
import Mathlib.Tactic.Tauto

namespace CronSweep

def Decimal.value (x : Decimal) : ℚ :=
  (if x.negative then -1 else 1) * x.digits * (10 : ℚ) ^ x.exponent

namespace IntegerFormat

theorem name_inj {f g : IntegerFormat} : f.name = g.name ↔ f = g := by
  cases f <;> cases g <;> simp [name]

theorem minimum_le {f : IntegerFormat} {n : Int} (h : f.admits n = true) {x : Decimal}
    (hx : f.minimum? = some x) : x.value ≤ n := by
  cases f with
  | int32 | int64 => cases hx
  | uint64 =>
      obtain rfl : ⟨false, 0, 0⟩ = x := Option.some_inj.mp hx
      have hn : 0 ≤ n := by simp_all [admits]
      simpa [Decimal.value] using hn

@[simp] theorem admits_int32 (n : Int32) : int32.admits n.toInt = true := by
  have hle := n.le_toInt
  have hlt := n.toInt_lt
  simp only [admits, Bool.and_eq_true, decide_eq_true_eq]
  omega

@[simp] theorem admits_int64 (n : Int64) : int64.admits n.toInt = true := by
  have hle := n.le_toInt
  have hlt := n.toInt_lt
  simp only [admits, Bool.and_eq_true, decide_eq_true_eq]
  omega

@[simp] theorem admits_uint64 (n : UInt64) : uint64.admits n.toNat = true := by
  have hlt := n.toNat_lt
  simp only [admits, Bool.and_eq_true, decide_eq_true_eq]
  omega

end IntegerFormat

namespace Json

def number? : Json → Option ℚ
  | .int n => some n
  | .real x => some x.value
  | _ => none

def isOfType : Json → String → Bool
  | .bool _, name => name == "boolean"
  | .int _, name => name == "integer" || name == "number"
  | .real _, name => name == "number"
  | .str _, name => name == "string"
  | .arr _, name => name == "array"
  | .obj _, name => name == "object"
  | .null, _ | .unusable, _ => false

end Json

namespace Schema

open Json

def property? (document : Json) (name : String) : Option Json :=
  (document.get? "properties").bind fun properties => properties.get? name

/-- What a document asks of a value, apart from what is inside it. -/
@[mk_iff]
structure Fits (document j : Json) : Prop where
  type : ∀ name, document.get? "type" = some (.str name) → j.isOfType name = true
  enum : ∀ values, document.get? "enum" = some (.arr values) → j ∈ values
  minimum : ∀ least, (document.get? "minimum").bind number? = some least →
    ∀ x, j.number? = some x → least ≤ x
  format : ∀ f : IntegerFormat, document.get? "format" = some (.str f.name) →
    ∀ n, j = .int n → f.admits n = true
  required : ∀ names, document.get? "required" = some (.arr names) →
    ∀ ms, j = .obj ms → ∀ name, .str name ∈ names → ∃ v, (name, v) ∈ ms

/-- A value meets a document: it is `null` where that may be, or it is what the keywords ask for
itself and so are its properties and items. All other keywords ask for nothing. -/
inductive Meets : Json → Json → Prop
  | null {document : Json} (h : document.get? "nullable" = some (.bool true)) :
      Meets document .null
  | value {document j : Json} (fits : Fits document j)
      (properties : ∀ ms, j = .obj ms → ∀ m ∈ ms, ∀ d, property? document m.1 = some d →
        Meets d m.2)
      (items : ∀ xs, j = .arr xs → ∀ x ∈ xs, ∀ d, document.get? "items" = some d → Meets d x) :
      Meets document j

/-- A value has no property that a document does not list, and none twice. -/
@[mk_iff]
inductive Declared : Json → Json → Prop
  | intro {document j : Json}
      (distinct : ∀ ms, j = .obj ms → (ms.map (·.1)).Nodup)
      (listed : ∀ ms, j = .obj ms → ∀ m ∈ ms, (property? document m.1).isSome)
      (properties : ∀ ms, j = .obj ms → ∀ m ∈ ms, ∀ d, property? document m.1 = some d →
        Declared d m.2)
      (items : ∀ xs, j = .arr xs → ∀ x ∈ xs, ∀ d, document.get? "items" = some d →
        Declared d x) :
      Declared document j

def MeetsValue (document j : Json) : Prop :=
  Fits document j ∧
    (∀ ms, j = .obj ms → ∀ m ∈ ms, ∀ d, property? document m.1 = some d → Meets d m.2) ∧
    ∀ xs, j = .arr xs → ∀ x ∈ xs, ∀ d, document.get? "items" = some d → Meets d x

theorem meets_iff {document j : Json} :
    Meets document j ↔
      (document.get? "nullable" = some (.bool true) ∧ j = .null) ∨ MeetsValue document j := by
  constructor
  · rintro (h | ⟨fits, properties, items⟩)
    · exact .inl ⟨h, rfl⟩
    · exact .inr ⟨fits, properties, items⟩
  · rintro (⟨h, rfl⟩ | ⟨fits, properties, items⟩)
    · exact .null h
    · exact .value fits properties items

def heeded : List String :=
  ["type", "enum", "minimum", "format", "required", "properties", "items"]

theorem meetsValue_congr {document other j : Json}
    (h : ∀ key ∈ heeded, document.get? key = other.get? key) :
    MeetsValue document j ↔ MeetsValue other j := by
  simp only [MeetsValue, fits_iff, property?, h "type" (by decide), h "enum" (by decide),
    h "minimum" (by decide), h "format" (by decide), h "required" (by decide),
    h "properties" (by decide), h "items" (by decide)]

theorem get?_toJson (s : Schema) (key : String) :
    s.toJson.get? key = (Json.obj s.keywords).get? key :=
  get?_sortedObject _ _

section

variable {s t : Schema} {name : String} {v : Json} (h : t.keywords = (name, v) :: s.keywords)
include h

theorem get?_toJson_of_keywords {key : String} (hkey : name ≠ key) :
    t.toJson.get? key = s.toJson.get? key := by
  rw [get?_toJson, h, get?_cons, if_neg hkey, Option.or_none, get?_toJson]

theorem property?_toJson_of_keywords (hname : name ≠ "properties") (property : String) :
    property? t.toJson property = property? s.toJson property := by
  rw [property?, property?, get?_toJson_of_keywords h hname]

theorem meetsValue_toJson_of_keywords (hname : name ∉ heeded) {j : Json} :
    MeetsValue t.toJson j ↔ MeetsValue s.toJson j :=
  meetsValue_congr fun _ hkey => get?_toJson_of_keywords h fun heq => hname (heq ▸ hkey)

/-- A keyword that asks for nothing makes no difference. -/
theorem meets_toJson_of_keywords (hnullable : name ≠ "nullable") (hname : name ∉ heeded)
    {j : Json} : Meets t.toJson j ↔ Meets s.toJson j := by
  rw [meets_iff, meets_iff, get?_toJson_of_keywords h hnullable,
    meetsValue_toJson_of_keywords h hname]

theorem declared_toJson_of_keywords (hproperties : name ≠ "properties") (hitems : name ≠ "items")
    {j : Json} : Declared t.toJson j ↔ Declared s.toJson j := by
  rw [declared_iff, declared_iff]
  simp only [property?_toJson_of_keywords h hproperties, get?_toJson_of_keywords h hitems]

end

section

variable {s : Schema} {text : String} {v j : Json}

@[simp] theorem meets_described : Meets (described text s).toJson j ↔ Meets s.toJson j :=
  meets_toJson_of_keywords rfl (by decide) (by decide)

@[simp] theorem meets_titled : Meets (titled text s).toJson j ↔ Meets s.toJson j :=
  meets_toJson_of_keywords rfl (by decide) (by decide)

@[simp] theorem meets_withDefault : Meets (withDefault v s).toJson j ↔ Meets s.toJson j :=
  meets_toJson_of_keywords rfl (by decide) (by decide)

@[simp] theorem declared_described : Declared (described text s).toJson j ↔ Declared s.toJson j :=
  declared_toJson_of_keywords rfl (by decide) (by decide)

@[simp] theorem declared_withDefault : Declared (withDefault v s).toJson j ↔ Declared s.toJson j :=
  declared_toJson_of_keywords rfl (by decide) (by decide)

end

theorem eq_true_of_mem_keywords : ∀ (s : Schema) {v : Json}, ("nullable", v) ∈ s.keywords →
    v = .bool true
  | .nullable s, v, h => by
      rcases List.mem_cons.mp h with h | h
      · exact congrArg Prod.snd h
      · exact eq_true_of_mem_keywords s h
  | .described _ s, v, h | .titled _ s, v, h | .withDefault _ s, v, h => by
      rcases List.mem_cons.mp h with h | h
      · simp at h
      · exact eq_true_of_mem_keywords s h
  | .boolean, v, h | .string, v, h | .dateTime, v, h | .choice _, v, h | .list _, v, h => by
      simp [keywords] at h
  | .object _ required, v, h => by
      by_cases hempty : required.isEmpty <;> simp [keywords, hempty] at h
  | .integer format, v, h => by
      cases format <;> simp [keywords, IntegerFormat.minimum?] at h

theorem meets_nullable {s : Schema} {j : Json} :
    Meets (nullable s).toJson j ↔ j = .null ∨ Meets s.toJson j := by
  have hnullable : (nullable s).toJson.get? "nullable" = some (.bool true) := by
    rw [get?_toJson, keywords, get?_cons, if_pos rfl]
    cases hget : (Json.obj s.keywords).get? "nullable" with
    | none => rfl
    | some v => rw [eq_true_of_mem_keywords s (mem_of_get? hget), Option.some_or]
  rw [meets_iff, meets_iff, meetsValue_toJson_of_keywords (s := s) rfl (by decide), hnullable]
  tauto

/-- A document that asks for nothing inside a value, and does not let it be `null`. -/
theorem meets_iff_fits {document j : Json} (hnullable : document.get? "nullable" = none)
    (hproperties : document.get? "properties" = none) (hitems : document.get? "items" = none) :
    Meets document j ↔ Fits document j := by
  rw [meets_iff, MeetsValue]
  simp [hnullable, property?, hproperties, hitems]

theorem meets_boolean {j : Json} : Meets boolean.toJson j ↔ j.bool?.isSome := by
  rw [meets_iff_fits rfl rfl rfl, fits_iff]
  simp only [get?_toJson, keywords, get?_cons, get?_nil]
  cases j <;> simp [isOfType, bool?]

theorem meets_string {j : Json} : Meets string.toJson j ↔ j.text?.isSome := by
  rw [meets_iff_fits rfl rfl rfl, fits_iff]
  simp only [get?_toJson, keywords, get?_cons, get?_nil]
  cases j <;> simp [isOfType, text?]

theorem meets_dateTime {j : Json} : Meets dateTime.toJson j ↔ j.text?.isSome := by
  rw [meets_iff_fits rfl rfl rfl, fits_iff]
  simp only [get?_toJson, keywords, get?_cons, get?_nil]
  cases j <;> simp [isOfType, text?]

theorem meets_choice {names : List String} {j : Json} :
    Meets (choice names).toJson j ↔ j.text?.any names.contains := by
  rw [meets_iff_fits (by simp [get?_toJson, keywords, get?_cons, get?_nil])
    (by simp [get?_toJson, keywords, get?_cons, get?_nil])
    (by simp [get?_toJson, keywords, get?_cons, get?_nil]), fits_iff]
  simp only [get?_toJson, keywords, get?_cons, get?_nil]
  cases j <;> simp [isOfType, text?]

theorem get?_integer (format : IntegerFormat) (key : String) :
    (integer format).toJson.get? key =
      if "minimum" = key then format.minimum?.map .real
      else if "type" = key then some (.str "integer")
      else if "format" = key then some (.str format.name) else none := by
  rw [get?_toJson, keywords]
  cases format.minimum? <;> simp [get?_cons, get?_nil] <;> split_ifs <;> subst_vars <;> simp_all

theorem meets_integer {format : IntegerFormat} {j : Json} :
    Meets (integer format).toJson j ↔ j.int?.any format.admits := by
  rw [meets_iff_fits (get?_integer _ _) (get?_integer _ _) (get?_integer _ _), fits_iff]
  simp only [get?_integer]
  cases j with
  | int n =>
      suffices h : format.admits n = true → ∀ x, format.minimum? = some x → x.value ≤ n by
        cases hminimum : format.minimum? <;>
          simp_all [isOfType, int?, number?, IntegerFormat.name_inj]
      exact fun hn x => IntegerFormat.minimum_le hn
  | null | bool | real | str | arr | obj | unusable => simp [isOfType, int?]

def listed? : List (String × Schema) → String → Option Schema
  | [], _ => none
  | (key, s) :: ps, name => (listed? ps name).or (if key = name then some s else none)

theorem listed?_eq_none_iff {ps : List (String × Schema)} {name : String} :
    listed? ps name = none ↔ ∀ p ∈ ps, p.1 ≠ name := by
  induction ps with
  | nil => simp [listed?]
  | cons p ps ih => simp [listed?, ih, and_comm]

theorem listed?_cons_eq_some_iff {ps : List (String × Schema)} {name key : String} {s t : Schema}
    (h : listed? ps name = none) :
    listed? ((name, s) :: ps) key = some t ↔ (name = key ∧ s = t) ∨ listed? ps key = some t := by
  rw [listed?]
  by_cases hkey : name = key
  · subst hkey
    simp [h]
  · simp [hkey]

theorem get?_propertyKeywords (ps : List (String × Schema)) (name : String) :
    (Json.obj (propertyKeywords ps)).get? name = (listed? ps name).map toJson := by
  induction ps with
  | nil => rfl
  | cons p ps ih =>
      rw [propertyKeywords, get?_cons, ih, listed?]
      cases listed? ps name with
      | some s => rfl
      | none => by_cases hname : p.1 = name <;> simp [hname, toJson]

section

variable {ps : List (String × Schema)} {required : List String}

theorem get?_object (key : String) :
    (object ps required).toJson.get? key =
      if "type" = key then some (.str "object")
      else if "properties" = key then some (sortedObject (propertyKeywords ps))
      else if "required" = key ∧ required ≠ [] then some (.arr (required.map .str)) else none := by
  rw [get?_toJson, keywords]
  cases required <;> simp [get?_cons, get?_nil] <;> split_ifs <;> subst_vars <;> simp_all

theorem property?_object (name : String) :
    property? (object ps required).toJson name = (listed? ps name).map toJson := by
  rw [property?, get?_object, if_neg (by decide), if_pos rfl, Option.bind_some, get?_sortedObject,
    get?_propertyKeywords]

theorem declared_object {ms : List (String × Json)} :
    Declared (object ps required).toJson (.obj ms) ↔
      (ms.map (·.1)).Nodup ∧ ∀ m ∈ ms, ∃ s, listed? ps m.1 = some s ∧ Declared s.toJson m.2 := by
  rw [declared_iff]
  simp only [property?_object, get?_object, Option.isSome_map, Option.isSome_iff_exists]
  constructor
  · rintro ⟨hdistinct, hlisted, hproperties, -⟩
    refine ⟨hdistinct ms rfl, fun m hm => ?_⟩
    obtain ⟨s, hs⟩ := hlisted ms rfl m hm
    exact ⟨s, hs, hproperties ms rfl m hm s.toJson (congrArg (Option.map toJson) hs)⟩
  · rintro ⟨hdistinct, hmembers⟩
    refine ⟨fun _ heq => Json.obj.inj heq ▸ hdistinct, fun _ heq m hm => ?_,
      fun _ heq m hm d hd => ?_, fun _ heq => nomatch heq⟩
    · obtain rfl := Json.obj.inj heq
      obtain ⟨s, hs, -⟩ := hmembers m hm
      exact ⟨s, hs⟩
    · obtain rfl := Json.obj.inj heq
      obtain ⟨s, hs, hdeclared⟩ := hmembers m hm
      rw [hs] at hd
      exact Option.some_inj.mp hd ▸ hdeclared

/-- Inside a value that is neither an object nor an array there is nothing to declare. -/
theorem declared_of_ne {document j : Json} (hobj : ∀ ms, j ≠ .obj ms) (harr : ∀ xs, j ≠ .arr xs) :
    Declared document j :=
  .intro (fun ms heq => absurd heq (hobj ms)) (fun ms heq => absurd heq (hobj ms))
    (fun ms heq => absurd heq (hobj ms)) fun xs heq => absurd heq (harr xs)

theorem meets_object {j : Json} : Meets (object ps required).toJson j ↔
    ∃ ms, j = .obj ms ∧ (∀ name ∈ required, ∃ v, (name, v) ∈ ms) ∧
      ∀ m ∈ ms, ∀ s, listed? ps m.1 = some s → Meets s.toJson m.2 := by
  rw [meets_iff, MeetsValue, fits_iff]
  simp only [property?_object, get?_object]
  cases j with
  | obj ms =>
      by_cases hrequired : required = [] <;> simp [isOfType, hrequired]
  | null | bool | int | real | str | arr | unusable => simp [isOfType]

end

theorem meets_list {item : Schema} {j : Json} :
    Meets (list item).toJson j ↔ ∃ xs, j = .arr xs ∧ ∀ x ∈ xs, Meets item.toJson x := by
  have hget (key : String) : (list item).toJson.get? key =
      if "type" = key then some (.str "array")
      else if "items" = key then some item.toJson else none := by
    rw [get?_toJson, keywords, get?_cons, get?_cons, get?_nil, toJson]
    split_ifs <;> rfl
  rw [meets_iff, MeetsValue, fits_iff]
  simp [hget, property?]
  cases j <;> simp [isOfType]

mutual

def namesDistinct : Schema → Bool
  | .list item => item.namesDistinct
  | .object properties _ => propertyNamesDistinct properties
  | .nullable s | .described _ s | .titled _ s | .withDefault _ s => s.namesDistinct
  | _ => true

def propertyNamesDistinct : List (String × Schema) → Bool
  | [] => true
  | (name, s) :: ps => ps.all (·.1 != name) && s.namesDistinct && propertyNamesDistinct ps

end

mutual

/-- A document that is printed for a schema asks for what the schema admits. -/
theorem meets_toJson_iff : ∀ (s : Schema) {j : Json}, s.namesDistinct = true →
    (Meets s.toJson j ↔ s.admits j = true)
  | .boolean, j, _ => by rw [meets_boolean, admits]
  | .string, j, _ => by rw [meets_string, admits]
  | .dateTime, j, _ => by rw [meets_dateTime, admits]
  | .choice names, j, _ => by rw [meets_choice, admits]
  | .integer format, j, _ => by rw [meets_integer, admits]
  | .list item, j, h => by
      have hitem (x : Json) := meets_toJson_iff item (j := x) h
      cases j <;> simp [meets_list, admits, hitem]
  | .object ps required, j, h => by
      cases j with
      | obj ms =>
          rw [meets_object, admits, Bool.and_eq_true, ← meetsProperties_iff ps h]
          simp
      | null | bool | int | real | str | arr | unusable => simp [meets_object, admits]
  | .nullable s, j, h => by
      rw [meets_nullable, meets_toJson_iff s h, admits]
      cases j <;> simp [isNull]
  | .described _ s, j, h => by rw [meets_described, meets_toJson_iff s h, admits]
  | .titled _ s, j, h => by rw [meets_titled, meets_toJson_iff s h, admits]
  | .withDefault _ s, j, h => by rw [meets_withDefault, meets_toJson_iff s h, admits]

theorem meetsProperties_iff : ∀ (ps : List (String × Schema)) {ms : List (String × Json)},
    propertyNamesDistinct ps = true →
      ((∀ m ∈ ms, ∀ s, listed? ps m.1 = some s → Meets s.toJson m.2) ↔
        admitsProperties ps ms = true)
  | [], ms, _ => by simp [listed?, admitsProperties]
  | (name, s) :: ps, ms, h => by
      simp only [propertyNamesDistinct, Bool.and_eq_true, List.all_eq_true, bne_iff_ne] at h
      obtain ⟨⟨hname, hs⟩, hps⟩ := h
      have hnew := listed?_eq_none_iff.mpr hname
      have hvalue (v : Json) := meets_toJson_iff s (j := v) hs
      rw [admitsProperties, Bool.and_eq_true, ← meetsProperties_iff ps hps, List.all_eq_true]
      simp only [listed?_cons_eq_some_iff hnew, Bool.or_eq_true, bne_iff_ne, ← hvalue]
      constructor
      · intro hall
        refine ⟨fun m hm => ?_, fun m hm t ht => hall m hm t (.inr ht)⟩
        by_cases hkey : m.1 = name
        · exact .inr (hall m hm s (.inl ⟨hkey.symm, rfl⟩))
        · exact .inl hkey
      · rintro ⟨hself, hrest⟩ m hm t (⟨rfl, rfl⟩ | ht)
        · exact (hself m hm).resolve_left fun hne => hne rfl
        · exact hrest m hm t ht

end

end Schema

end CronSweep
