import CronSweep.Definition
import CronSweep.Proofs.Schema.Document
import CronSweep.Proofs.Wire.RoundTrip

namespace CronSweep

open Json

namespace Schema

theorem exists_text_of_meets {j : Json} (h : Meets string.toJson j) : ∃ s, j = .str s := by
  obtain ⟨s, hs⟩ := Option.isSome_iff_exists.mp (meets_string.mp h)
  exact ⟨s, text?_eq_some_iff.mp hs⟩

theorem exists_bool_of_meets {j : Json} (h : Meets boolean.toJson j) : ∃ b, j = .bool b := by
  obtain ⟨b, hb⟩ := Option.isSome_iff_exists.mp (meets_boolean.mp h)
  exact ⟨b, bool?_eq_some_iff.mp hb⟩

theorem exists_int32_of_meets {j : Json} (h : Meets (integer .int32).toJson j) :
    ∃ n : Int32, j = .int n.toInt := by
  rw [meets_integer] at h
  cases j with
  | int n =>
      have hn : -2_147_483_648 ≤ n ∧ n ≤ 2_147_483_647 := by
        simpa [int?, IntegerFormat.admits] using h
      exact ⟨.ofInt n, int32?_eq_some_iff.mp (if_pos hn)⟩
  | null | bool | real | str | arr | obj | unusable => simp [int?] at h

section

variable {ps : List (String × Schema)} {required : List String} {ms : List (String × Json)}
  (hmeets : Meets (object ps required).toJson (.obj ms))
  (hdeclared : Declared (object ps required).toJson (.obj ms))
  (name : String) (aliases : List String) {s : Schema} (hlisted : listed? ps name = some s)
  (haliases : ∀ other ∈ aliases, listed? ps other = none)
include hmeets hdeclared hlisted haliases

/-- A field whose aliases are not listed is there under its own name, if at all. -/
theorem lacks_or_exists_holds :
    (Lacks (name :: aliases) ms ∧ name ∉ required) ∨
      ∃ v, Holds (name :: aliases) ms v ∧ Meets s.toJson v ∧ Declared s.toJson v := by
  obtain ⟨ms', heq, hrequired, hproperties⟩ := meets_object.mp hmeets
  obtain rfl := Json.obj.inj heq
  obtain ⟨hnodup, hknown⟩ := declared_object.mp hdeclared
  have honly : ∀ m ∈ ms, m.1 ∈ name :: aliases → m.1 = name := by
    intro m hm hnames
    rcases List.mem_cons.mp hnames with hname | halias
    · exact hname
    · obtain ⟨t, ht, -⟩ := hknown m hm
      rw [haliases _ halias] at ht
      cases ht
  by_cases hmem : ∃ v, (name, v) ∈ ms
  · obtain ⟨v, hv⟩ := hmem
    obtain ⟨t, ht, hinside⟩ := hknown _ hv
    obtain rfl := Option.some_inj.mp (hlisted.symm.trans ht)
    exact .inr ⟨v, holds_of_nodup hnodup hv List.mem_cons_self honly, hproperties _ hv s hlisted,
      hinside⟩
  · refine .inl ⟨fun m hm hnames => hmem ⟨m.2, ?_⟩, fun hname => hmem (hrequired name hname)⟩
    rw [← honly m hm hnames]
    exact hm

theorem exists_holds (hname : name ∈ required) :
    ∃ v, Holds (name :: aliases) ms v ∧ Meets s.toJson v ∧ Declared s.toJson v :=
  (lacks_or_exists_holds hmeets hdeclared name aliases hlisted haliases).resolve_left
    fun h => h.2 hname

end

end Schema

open Schema

namespace Definition

theorem exists_spelled_retention {j : Json} (hmeets : Meets retentionSchema.toJson j)
    (hdeclared : Declared retentionSchema.toJson j) : ∃ r : Retention, r.Spelled j := by
  obtain ⟨ms, rfl, -, -⟩ := meets_object.mp hmeets
  obtain ⟨v, hsuccessful, hv, -⟩ := exists_holds hmeets hdeclared "successfulJobs" ["successful"]
    rfl (by decide) (by decide)
  obtain ⟨w, hfailed, hw, -⟩ := exists_holds hmeets hdeclared "failedJobs" ["failed"]
    rfl (by decide) (by decide)
  obtain ⟨successfulJobs, rfl⟩ := exists_int32_of_meets (meets_described.mp hv)
  obtain ⟨failedJobs, rfl⟩ := exists_int32_of_meets (meets_described.mp hw)
  exact ⟨⟨successfulJobs, failedJobs⟩, hsuccessful, hfailed⟩

theorem exists_spelled_stuckCleanup {j : Json} (hmeets : Meets stuckCleanupSchema.toJson j)
    (hdeclared : Declared stuckCleanupSchema.toJson j) : ∃ s : StuckCleanup, s.Spelled j := by
  obtain ⟨ms, rfl, -, -⟩ := meets_object.mp hmeets
  have henabled : ∃ b : Bool, Holds ["enabled"] ms (.bool b) ∨
      (Lacks ["enabled"] ms ∧ b = false) := by
    rcases lacks_or_exists_holds hmeets hdeclared "enabled" [] rfl (by decide) with
      ⟨hlacks, -⟩ | ⟨v, hholds, hv, -⟩
    · exact ⟨false, .inr ⟨hlacks, rfl⟩⟩
    · obtain ⟨b, rfl⟩ := exists_bool_of_meets (meets_withDefault.mp hv)
      exact ⟨b, .inl hholds⟩
  have hstuckAfter : ∃ s : String, Holds ["stuckAfter"] ms (.str s) ∨
      (Lacks ["stuckAfter"] ms ∧ s = "") := by
    rcases lacks_or_exists_holds hmeets hdeclared "stuckAfter" [] rfl (by decide) with
      ⟨hlacks, -⟩ | ⟨v, hholds, hv, -⟩
    · exact ⟨"", .inr ⟨hlacks, rfl⟩⟩
    · obtain ⟨s, rfl⟩ := exists_text_of_meets (meets_withDefault.mp (meets_described.mp hv))
      exact ⟨s, .inl hholds⟩
  obtain ⟨enabled, henabled⟩ := henabled
  obtain ⟨stuckAfter, hstuckAfter⟩ := hstuckAfter
  exact ⟨⟨enabled, stuckAfter⟩, henabled, hstuckAfter⟩

theorem exists_spelled_spec {j : Json} (hmeets : Meets specSchema.toJson j)
    (hdeclared : Declared specSchema.toJson j) : ∃ s : Spec, s.Spelled j := by
  rw [specSchema, meets_described] at hmeets
  rw [specSchema, declared_described] at hdeclared
  obtain ⟨ms, rfl, -, -⟩ := meets_object.mp hmeets
  obtain ⟨v₁, hnamespace, hv₁, -⟩ := exists_holds hmeets hdeclared "namespace" []
    rfl (by decide) (by decide)
  obtain ⟨v₂, hcronJobName, hv₂, -⟩ := exists_holds hmeets hdeclared "cronJobName"
    ["targetWorkloadName"] rfl (by decide) (by decide)
  obtain ⟨v₃, hretain, hv₃, hv₃'⟩ := exists_holds hmeets hdeclared "retain" []
    rfl (by decide) (by decide)
  obtain ⟨v₅, hrunInterval, hv₅, -⟩ := exists_holds hmeets hdeclared "runInterval" []
    rfl (by decide) (by decide)
  obtain ⟨namespace_, rfl⟩ := exists_text_of_meets (meets_described.mp hv₁)
  obtain ⟨cronJobName, rfl⟩ := exists_text_of_meets (meets_described.mp hv₂)
  obtain ⟨retain, hspelled⟩ := exists_spelled_retention hv₃ hv₃'
  obtain ⟨runInterval, rfl⟩ := exists_text_of_meets (meets_described.mp hv₅)
  have hcleanupStuck : ∃ cleanup : StuckCleanup,
      (∃ v, Holds ["cleanupStuck"] ms v ∧ cleanup.Spelled v) ∨
        (Lacks ["cleanupStuck"] ms ∧ cleanup = .off) := by
    rcases lacks_or_exists_holds hmeets hdeclared "cleanupStuck" [] rfl (by decide) with
      ⟨hlacks, -⟩ | ⟨v, hholds, hv, hv'⟩
    · exact ⟨.off, .inr ⟨hlacks, rfl⟩⟩
    · obtain ⟨cleanup, hcleanup⟩ := exists_spelled_stuckCleanup (meets_withDefault.mp hv)
        (declared_withDefault.mp hv')
      exact ⟨cleanup, .inl ⟨v, hholds, hcleanup⟩⟩
  obtain ⟨cleanupStuck, hcleanupStuck⟩ := hcleanupStuck
  exact ⟨⟨namespace_, cronJobName, retain, cleanupStuck, runInterval⟩, hnamespace, hcronJobName,
    ⟨v₃, hretain, hspelled⟩, hcleanupStuck, hrunInterval⟩

theorem admits_retention (r : Retention) : retentionSchema.admits r.toJson = true := by
  simp [retentionSchema, Retention.toJson, admits, admitsProperties, int?]

theorem admits_stuckCleanup (s : StuckCleanup) : stuckCleanupSchema.admits s.toJson = true := by
  simp [stuckCleanupSchema, StuckCleanup.toJson, admits, admitsProperties, text?, bool?]

theorem admits_spec (s : Spec) : specSchema.admits s.toJson = true := by
  simp [specSchema, Spec.toJson, admits, admitsProperties, text?, admits_retention,
    admits_stuckCleanup]

theorem admits_condition (c : Condition) : conditionSchema.admits c.toJson = true := by
  have hstatus : c.status.symbol = ConditionStatus.holds.symbol ∨
      c.status.symbol = ConditionStatus.fails.symbol ∨
        c.status.symbol = ConditionStatus.unknown.symbol := by
    cases c.status <;> simp
  cases hgeneration : c.observedGeneration <;>
    simp [conditionSchema, Condition.toJson, hgeneration, Json.optional, Instant.toJson, admits,
      admitsProperties, text?, int?, hstatus]

theorem admits_status (s : Status) : statusSchema.admits s.toJson = true := by
  cases hlastRunTime : s.lastRunTime <;> cases hconditions : s.conditions.isEmpty <;>
    simp [statusSchema, Status.toJson, hlastRunTime, hconditions, Json.optional, Instant.toJson,
      admits, admitsProperties, text?, int?, admits_condition]

theorem admits_cleaner (c : Cleaner) : schema.admits c.toJson = true := by
  cases hstatus : c.status <;>
    simp [schema, Cleaner.toJson, hstatus, Json.optional, admits, admitsProperties, admits_spec,
      admits_status]

theorem meets_cleaner (c : Cleaner) : Meets schema.toJson c.toJson :=
  (meets_toJson_iff schema (by decide)).mpr (admits_cleaner c)

def openApi? (definition : Json) : Option Json := do
  let spec ← definition.get? "spec"
  let versions ← spec.get? "versions"
  let version ← versions.at? 0
  let schema ← version.get? "schema"
  schema.get? "openAPIV3Schema"

/-- A cleaner that a cluster has let in by a document: it has metadata, a spec with nothing else in
it than the document lists, and for a status what has been written for one, if anything. -/
structure Stored (document : Json) (ms : List (String × Json)) : Prop where
  meets : Meets document (.obj ms)
  distinct : (ms.map (·.1)).Nodup
  metadata : ∃ v metadata, ("metadata", v) ∈ ms ∧ Metadata.ofJson? v = some metadata
  spec : ∀ d, property? document "spec" = some d → ∀ v, ("spec", v) ∈ ms → Declared d v
  status : ∀ v, ("status", v) ∈ ms → v = .null ∨ ∃ s : Status, v = s.toJson

theorem exists_cleaner_of_stored {ms : List (String × Json)} (h : Stored schema.toJson ms) :
    ∃ c, Cleaner.ofJson? (.obj ms) = some c := by
  have hslot {name : String} {v : Json} (hm : (name, v) ∈ ms) :
      Slot.ofMembers [name] ms = .filled v :=
    Slot.ofMembers_eq_filled_iff.mpr <|
      holds_of_nodup h.distinct hm List.mem_cons_self fun _ _ => List.mem_singleton.mp
  obtain ⟨v, metadata, hv, hmetadata⟩ := h.metadata
  have hmeets := h.meets
  rw [schema, meets_titled, meets_described, meets_object] at hmeets
  obtain ⟨ms', heq, hrequired, hproperties⟩ := hmeets
  obtain rfl := Json.obj.inj heq
  obtain ⟨j, hj⟩ := hrequired "spec" List.mem_cons_self
  obtain ⟨spec, hspelled⟩ := exists_spelled_spec (hproperties _ hj specSchema rfl)
    (h.spec specSchema.toJson rfl j hj)
  obtain ⟨status, hstatus⟩ : ∃ status, (Slot.ofMembers ["status"] ms).withDefault none
      (nullable Status.ofJson?) = some status := by
    by_cases hmem : ∃ v, ("status", v) ∈ ms
    · obtain ⟨w, hw⟩ := hmem
      rw [hslot hw]
      rcases h.status w hw with rfl | ⟨s, rfl⟩
      · exact ⟨none, rfl⟩
      · exact ⟨some s, s.nullable_ofJson?_toJson⟩
    · have hmissing : Slot.ofMembers ["status"] ms = .missing :=
        Slot.ofMembers_eq_missing_iff.mpr fun n hn hname =>
          hmem ⟨n.2, List.mem_singleton.mp hname ▸ hn⟩
      exact ⟨none, by rw [hmissing]; rfl⟩
  refine ⟨⟨metadata, spec, status⟩, ?_⟩
  rw [Cleaner.ofJson?, members?, Option.bind_eq_bind, Option.bind_some, hslot hv, hslot hj, hstatus]
  simp [Slot.required, hmetadata, Spec.ofJson?_eq_some_iff.mpr hspelled]

/-- What is written meets the published document, and what meets it is read. -/
theorem published_schema_agrees {document specDocument : Json} (h : openApi? json = some document)
    (hspec : property? document "spec" = some specDocument) :
    (∀ c : Cleaner, Meets document c.toJson) ∧
      (∀ (r : Api.Reporter) (now : Instant) (c : Cleaner) (s : Status), ∃ body,
        (Api.request r now (.updateStatus c s)).body = some body ∧ Meets document body) ∧
      (∀ j, Meets specDocument j → Declared specDocument j → ∃ s, Spec.ofJson? j = some s) ∧
      ∀ ms, Stored document ms → ∃ c, Cleaner.ofJson? (.obj ms) = some c := by
  obtain rfl : schema.toJson = document := Option.some_inj.mp h
  obtain rfl : specSchema.toJson = specDocument := Option.some_inj.mp hspec
  refine ⟨meets_cleaner, fun r now c s => ⟨_, Wire.body_updateStatus r now c s, meets_cleaner _⟩,
    fun j hmeets hdeclared => ?_, fun ms => exists_cleaner_of_stored⟩
  obtain ⟨s, hs⟩ := exists_spelled_spec hmeets hdeclared
  exact ⟨s, Spec.ofJson?_eq_some_iff.mpr hs⟩

def sparseSpec : Json :=
  .obj [("runInterval", .str "5m"), ("retain", .obj [("failedJobs", .int 0),
    ("successfulJobs", .int 3)]), ("cronJobName", .str "nightly"), ("namespace", .str "batch")]

theorem sparseSpec_read :
    let ms := [("spec", sparseSpec), ("metadata", Json.obj [])]
    ∃ document specDocument, openApi? json = some document ∧
      property? document "spec" = some specDocument ∧ Meets specDocument sparseSpec ∧
      Declared specDocument sparseSpec ∧ (∃ s, Spec.ofJson? sparseSpec = some s) ∧
      Stored document ms ∧ ∃ c, Cleaner.ofJson? (.obj ms) = some c := by
  intro ms
  have hmeets : Meets specSchema.toJson sparseSpec :=
    (meets_toJson_iff specSchema (by decide)).mpr (by decide)
  have hretain : Declared retentionSchema.toJson
      (.obj [("failedJobs", .int 0), ("successfulJobs", .int 3)]) := by
    rw [retentionSchema, declared_object]
    simp [listed?, declared_of_ne]
  have hdeclared : Declared specSchema.toJson sparseSpec := by
    rw [specSchema, declared_described, sparseSpec, declared_object]
    simp [listed?, declared_of_ne, hretain]
  have hstored : Stored schema.toJson ms :=
    { meets := (meets_toJson_iff schema (by decide)).mpr (by decide)
      distinct := by decide
      metadata := ⟨.obj [], .blank, by simp [ms], rfl⟩
      spec := by
        intro d hd v hv
        obtain rfl : specSchema.toJson = d := Option.some_inj.mp hd
        obtain rfl : v = sparseSpec := by simpa [ms] using hv
        exact hdeclared
      status := by simp [ms] }
  have hdocument : openApi? json = some schema.toJson := rfl
  have hspecDocument : property? schema.toJson "spec" = some specSchema.toJson := rfl
  obtain ⟨-, -, hspec, hcleaner⟩ := published_schema_agrees hdocument hspecDocument
  exact ⟨schema.toJson, specSchema.toJson, hdocument, hspecDocument, hmeets, hdeclared,
    hspec _ hmeets hdeclared, hstored, hcleaner _ hstored⟩

end Definition

end CronSweep
