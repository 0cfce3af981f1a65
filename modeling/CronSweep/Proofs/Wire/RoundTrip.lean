import CronSweep.Api.Request
import CronSweep.Proofs.Cycle.Decision
import CronSweep.Proofs.Wire.Metadata
import CronSweep.Proofs.Wire.Spec
import CronSweep.Proofs.Wire.Status

namespace CronSweep

open Json

def Cleaner.jsonFields (c : Cleaner) : List (String × Option Json) :=
  [("apiVersion", some (.str apiVersion)), ("kind", some (.str kind)),
    ("metadata", some c.metadata.toJson), ("spec", some c.spec.toJson),
    ("status", c.status.map Status.toJson)]

theorem Cleaner.toJson_eq (c : Cleaner) : c.toJson = .obj (written c.jsonFields) := by
  rcases c with ⟨_, _, _ | _⟩ <;> rfl

theorem Cleaner.ofJson?_toJson {c : Cleaner} (h : c.metadata.HasWholeStamps) :
    ofJson? c.toJson = some c := by
  have hnodup : (c.jsonFields.map (·.1)).Nodup := by simp [jsonFields]
  have hmetadata : (Slot.ofMembers ["metadata"] (written c.jsonFields)).required
      Metadata.ofJson? = some c.metadata :=
    required_written hnodup (by simp [jsonFields]) (Metadata.ofJson?_toJson h)
  have hspec : (Slot.ofMembers ["spec"] (written c.jsonFields)).required Spec.ofJson? =
      some c.spec :=
    required_written hnodup (by simp [jsonFields])
      c.spec.ofJson?_toJson
  have hstatus : (Slot.ofMembers ["status"] (written c.jsonFields)).withDefault none
      (nullable Status.ofJson?) = some c.status :=
    withDefault_written_map hnodup (by simp [jsonFields]) fun s _ => s.nullable_ofJson?_toJson
  rw [toJson_eq, ofJson?, members?, Option.bind_eq_bind, Option.bind_some, hmetadata, hspec,
    hstatus]
  rfl

namespace Wire

/-- A value is read back from what is written for it. Whatever it has been read from, to write it
and to read it again changes nothing, and it is written the same again. -/
structure RoundTrips {α : Type} (encode : α → Json) (decode : Json → Option α) (a : α) :
    Prop where
  decode_encode : decode (encode a) = some a
  again : ∀ j, decode j = some a → ∃ b, decode (encode a) = some b ∧ b = a ∧ encode b = encode a

theorem roundTrips_of_decode_encode {α : Type} {encode : α → Json} {decode : Json → Option α}
    {a : α} (h : decode (encode a) = some a) : RoundTrips encode decode a :=
  ⟨h, fun _ _ => ⟨a, h, rfl, rfl⟩⟩

theorem body_updateStatus (r : Api.Reporter) (now : Instant) (c : Cleaner) (s : Status) :
    (Api.request r now (.updateStatus c s)).body = some { c with status := some s }.toJson := rfl

/-- What is written is read back, and every way to write a spec is known. -/
theorem round_trip {c : Cleaner} (hstamps : c.metadata.HasWholeStamps) (spec : Spec)
    (status : Status) (r : Api.Reporter) (now : Instant) :
    RoundTrips Spec.toJson Spec.ofJson? spec ∧
      RoundTrips Status.toJson Status.ofJson? status ∧
      RoundTrips Cleaner.toJson Cleaner.ofJson? c ∧
      (∀ j, Spec.ofJson? j = some spec ↔ spec.Spelled j) ∧
      (∀ ms v w, ("cronJobName", v) ∈ ms → ("targetWorkloadName", w) ∈ ms →
        Spec.ofJson? (.obj ms) = none) ∧
      (∀ ms v w, (("successfulJobs", v) ∈ ms ∧ ("successful", w) ∈ ms) ∨
        (("failedJobs", v) ∈ ms ∧ ("failed", w) ∈ ms) → Retention.ofJson? (.obj ms) = none) ∧
      (Api.request r now (.updateStatus c status)).body.bind Cleaner.ofJson? =
        some { c with status := some status } := by
  refine ⟨roundTrips_of_decode_encode spec.ofJson?_toJson,
    roundTrips_of_decode_encode status.ofJson?_toJson,
    roundTrips_of_decode_encode (Cleaner.ofJson?_toJson hstamps),
    fun j => Spec.ofJson?_eq_some_iff, fun ms v w => Spec.ofJson?_of_aliases,
    fun ms v w => Retention.ofJson?_of_aliases, ?_⟩
  have hupdated : { c with status := some status }.metadata.HasWholeStamps := hstamps
  rw [body_updateStatus, Option.bind_some]
  exact Cleaner.ofJson?_toJson hupdated

def storedNightly : Cleaner :=
  { Cycle.nightly with
    metadata := { Metadata.blank with
      creationTimestamp := some Cycle.pastOne, generation := some 2, resourceVersion := some "7" } }

def leapStatus : Status :=
  ⟨some ⟨59, 1_500_000_000, .inr (by decide), by decide, by decide⟩, 18_446_744_073_709_551_615, 0,
    []⟩

theorem nightly_round_trip :
    storedNightly.metadata.HasWholeStamps ∧
      (Api.request ⟨"sweeper", none⟩ Cycle.pastOne
        (.updateStatus storedNightly leapStatus)).body.bind Cleaner.ofJson? =
        some { storedNightly with status := some leapStatus } ∧
      Spec.ofJson? (.arr [.str "batch", .str "nightly", .obj [("failed", .int 0),
        ("successfulJobs", .int 1)], .arr [.bool true, .str "1h"], .str "5m"]) =
        some Cycle.nightlySpec := by
  have hstamps : storedNightly.metadata.HasWholeStamps := by
    constructor
    · intro t ht
      obtain rfl : Cycle.pastOne = t := Option.some_inj.mp ht
      exact Nat.zero_mod _
    · intro t ht
      cases show none = some t from ht
    · intro fs hfs
      cases show none = some fs from hfs
  obtain ⟨-, -, -, hspelled, -, -, hbody⟩ :=
    round_trip hstamps Cycle.nightlySpec leapStatus ⟨"sweeper", none⟩ Cycle.pastOne
  refine ⟨hstamps, hbody, (hspelled _).mpr ⟨rfl, rfl, ⟨?_, ?_⟩, .inl rfl, rfl⟩⟩
  · exact Slot.ofMembers_eq_filled_iff.mp rfl
  · exact Slot.ofMembers_eq_filled_iff.mp rfl

end Wire

end CronSweep
