import CronSweep.Proofs.Instant.RoundTrip
import CronSweep.Proofs.Json.Field
import CronSweep.Wire.Metadata
import CronSweep.Wire.Cleaner

namespace CronSweep.Json

theorem text?_str (s : String) : text? (.str s) = some s := rfl

theorem text?_eq_some_iff {j : Json} {s : String} : j.text? = some s ↔ j = .str s := by
  cases j <;> simp [text?]

theorem bool?_eq_some_iff {j : Json} {b : Bool} : j.bool? = some b ↔ j = .bool b := by
  cases j <;> simp [bool?]

theorem int32?_eq_some_iff {j : Json} {n : Int32} : j.int32? = some n ↔ j = .int n.toInt := by
  cases j with
  | int m =>
      have hle := n.le_toInt
      have hlt := n.toInt_lt
      simp only [int32?, Option.ite_none_right_eq_some, Option.some.injEq, int.injEq]
      constructor
      · rintro ⟨⟨hm, hm'⟩, rfl⟩
        rw [Int32.toInt_ofInt_of_le (by omega) (by omega)]
      · rintro rfl
        exact ⟨by omega, Int32.ofInt_toInt n⟩
  | null | bool | real | str | arr | obj | unusable => simp [int32?]

theorem int64?_toInt (n : Int64) : int64? (.int n.toInt) = some n := by
  have hle := n.le_toInt
  have hlt := n.toInt_lt
  rw [int64?, if_pos (by omega), Int64.ofInt_toInt]

theorem uint64?_toNat (n : UInt64) : uint64? (.int n.toNat) = some n := by
  have hlt := n.toNat_lt
  rw [uint64?, if_pos (by omega), Int.toNat_natCast, UInt64.ofNat_toNat]

theorem time?_toJson (t : Instant) : time? t.toJson = some t :=
  Instant.ofText?_text (Instant.shows_exactly t)

theorem time?_toStampJson {t : Instant} (h : t.IsWhole) : time? t.toStampJson = some t :=
  Instant.ofText?_text (Instant.shows_seconds h)

section

variable {α : Type} {encode : α → Json} {decode : Json → Option α}

theorem list?_map {xs : List α} (h : ∀ x ∈ xs, decode (encode x) = some x) :
    list? decode (.arr (xs.map encode)) = some xs := by
  rw [list?_eq_some_iff]
  exact ⟨_, rfl, List.forall₂_map_left_iff.mpr (List.forall₂_same.mpr h)⟩

def written (fields : List (String × Option Json)) : List (String × Json) :=
  fields.flatMap fun f => optional f.1 id f.2

theorem optional_eq (name : String) (value : Option α) :
    optional name encode value = optional name id (value.map encode) := by
  cases value <;> rfl

theorem filter_written {fields : List (String × Option Json)} (hnodup : (fields.map (·.1)).Nodup)
    {name : String} {value : Option Json} (h : (name, value) ∈ fields) :
    (written fields).filter (·.1 == name) = optional name id value := by
  have hother : ∀ f : String × Option Json, f.1 ≠ name →
      (optional f.1 id f.2).filter (·.1 == name) = [] := by
    rintro ⟨other, _ | v⟩ hne
    · rfl
    · simpa [optional] using hne
  have hself : (optional name id value).filter (·.1 == name) = optional name id value := by
    cases value <;> simp [optional]
  induction fields with
  | nil => cases h
  | cons f fields ih =>
      obtain ⟨hnew, hnodup⟩ := List.nodup_cons.mp hnodup
      rw [written, List.flatMap_cons, List.filter_append]
      -- The names are distinct, so that only one of the two parts has anything under this one.
      rcases List.mem_cons.mp h with rfl | h
      · have hrest : (written fields).filter (·.1 == name) = [] := by
          rw [written, List.filter_flatMap, List.flatMap_eq_nil_iff]
          intro f hf
          exact hother f fun hname => hnew (List.mem_map.mpr ⟨f, hf, hname⟩)
        rw [← written, hrest, List.append_nil, hself]
      · have hne : f.1 ≠ name := fun hname => hnew (List.mem_map.mpr ⟨(name, value), h, hname.symm⟩)
        rw [hother f hne, List.nil_append]
        exact ih hnodup h

variable {fields : List (String × Option Json)} {name : String}

/-- Under distinct names each field is read back if its values are, and if none of these is written
like a missing one. -/
theorem latest_written (hnodup : (fields.map (·.1)).Nodup) {value : Option α}
    (h : (name, value.map encode) ∈ fields)
    (hvalue : ∀ a ∈ value, nullable decode (encode a) = some (some a)) :
    latest (written fields) name decode = some value := by
  rw [latest, filter_written hnodup h]
  cases value with
  | none => rfl
  | some a => simp [optional, hvalue a rfl]

theorem ofMembers_written (hnodup : (fields.map (·.1)).Nodup) {value : Option Json}
    (h : (name, value) ∈ fields) :
    Slot.ofMembers [name] (written fields) = value.elim .missing .filled := by
  have hname (m : String × Json) : [name].contains m.1 = (m.1 == name) := by
    rw [Bool.eq_iff_iff]
    simp
  simp only [Slot.ofMembers, hname, filter_written hnodup h]
  cases value <;> rfl

theorem required_written (hnodup : (fields.map (·.1)).Nodup) {j : Json} {a : α}
    (h : (name, some j) ∈ fields) (hj : decode j = some a) :
    (Slot.ofMembers [name] (written fields)).required decode = some a := by
  rw [ofMembers_written hnodup h]
  exact hj

theorem withDefault_written (hnodup : (fields.map (·.1)).Nodup) {j : Json} {a default : α}
    (h : (name, some j) ∈ fields) (hj : decode j = some a) :
    (Slot.ofMembers [name] (written fields)).withDefault default decode = some a := by
  rw [ofMembers_written hnodup h]
  exact hj

theorem withDefault_written_none (hnodup : (fields.map (·.1)).Nodup) {default : α}
    (h : (name, none) ∈ fields) :
    (Slot.ofMembers [name] (written fields)).withDefault default decode = some default := by
  rw [ofMembers_written hnodup h]
  rfl

theorem withDefault_written_map (hnodup : (fields.map (·.1)).Nodup) {value : Option α}
    (h : (name, value.map encode) ∈ fields)
    (hvalue : ∀ a ∈ value, nullable decode (encode a) = some (some a)) :
    (Slot.ofMembers [name] (written fields)).withDefault none (nullable decode) = some value := by
  cases value with
  | none => exact withDefault_written_none hnodup h
  | some a => exact withDefault_written hnodup h (hvalue a rfl)

end

theorem nullable_text?_str (s : String) : nullable text? (.str s) = some (some s) := rfl

theorem nullable_int64?_toInt (n : Int64) : nullable int64? (.int n.toInt) = some (some n) :=
  nullable_eq_some_some_iff.mpr ⟨nofun, int64?_toInt n⟩

theorem nullable_time?_toJson (t : Instant) : nullable time? t.toJson = some (some t) :=
  nullable_eq_some_some_iff.mpr ⟨nofun, time?_toJson t⟩

theorem nullable_time?_toStampJson {t : Instant} (h : t.IsWhole) :
    nullable time? t.toStampJson = some (some t) :=
  nullable_eq_some_some_iff.mpr ⟨nofun, time?_toStampJson h⟩

theorem nullable_list?_map {α : Type} {encode : α → Json} {decode : Json → Option α} {xs : List α}
    (h : ∀ x ∈ xs, decode (encode x) = some x) :
    nullable (list? decode) (.arr (xs.map encode)) = some (some xs) :=
  nullable_eq_some_some_iff.mpr ⟨nofun, list?_map h⟩

theorem nullable_list?_str (xs : List String) :
    nullable (list? text?) (.arr (xs.map .str)) = some (some xs) :=
  nullable_list?_map fun _ _ => rfl

end CronSweep.Json
