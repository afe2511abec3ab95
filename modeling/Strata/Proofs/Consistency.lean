import Strata.Proofs.Commits
import Strata.Proofs.PlanErrors
import Strata.Proofs.Steps

/-!
# Consistent stores

A store is consistent at a version when its header, its schema and its records are those of the
version (`Registry.Consistent`). A committed step takes a consistent store to one that is consistent
at the next version (`Registry.Commits.consistent`): the touched tables were checked against the
next schema, and the definition of a table that was not touched has not changed. A step that fails
on a consistent store does not fail on a mismatch (`Registry.Raises.isMismatch`).
-/

namespace Strata

/-- No entity name of a schema holds the null character. -/
def Schema.NulFreeNames (schema : Schema) : Prop :=
  ∀ name, schema.hasEntity name = true → NulFree name

/-- The names of a schema are those of the entities that it is made of. -/
theorem Schema.nulFreeNames_ofList {version : Nat} {entities : List Entity}
    (h : ∀ e ∈ entities, NulFree e.name) : (ofList version entities).NulFreeNames := by
  intro name hname
  obtain ⟨e, he⟩ := Schema.exists_entity? hname
  obtain ⟨hmem, rfl⟩ := Schema.mem_of_entity?_ofList he
  exact h e hmem

namespace Store

/-- Every record of a store is stored under an entity of the schema and its own key, and nothing is
wrong with it. -/
def Holds (s : Store) (schema : Schema) : Prop :=
  ∀ (bytes : Bytes) (r : Record), s.records[bytes]? = some r →
    ∃ name e, schema.entity? name = some e ∧ bytes = StorageKey.encode name r.key ∧ e.issues r = []

variable {s : Store} {schema : Schema}

/-- The records of a schema are filed. -/
theorem Holds.filed (h : s.Holds schema) (hnames : schema.NulFreeNames) : s.Filed := by
  intro bytes r hr
  obtain ⟨name, e, he, hbytes, -⟩ := h bytes r hr
  exact ⟨name, hnames name (Schema.hasEntity_of_entity? he), hbytes⟩

/-- A record found under a key is of an entity of the schema, and nothing is wrong with it. -/
theorem Holds.entity_of_get? (h : s.Holds schema) (hnames : schema.NulFreeNames) {name : String}
    (hname : NulFree name) {key : Key} {r : Record} (hr : s.get? name key = some r) :
    ∃ e, schema.entity? name = some e ∧ e.issues r = [] := by
  obtain ⟨other, e, he, hbytes, hissues⟩ := h _ r hr
  have hother := hnames other (Schema.hasEntity_of_entity? he)
  obtain ⟨rfl, -⟩ := StorageKey.encode_injective hname hother hbytes
  exact ⟨e, he, hissues⟩

/-- In a filed store it is enough to look at the records found under keys. -/
theorem holds_of_get? (hfiled : s.Filed)
    (h : ∀ name key r, NulFree name → s.get? name key = some r →
      ∃ e, schema.entity? name = some e ∧ e.issues r = []) : s.Holds schema := by
  intro bytes r hr
  obtain ⟨name, hname, rfl⟩ := hfiled bytes r hr
  obtain ⟨e, he, hissues⟩ := h name r.key r hname hr
  exact ⟨name, e, he, rfl, hissues⟩

/-- A snapshot of the records of a schema holds under each key what the store holds there. -/
theorem Holds.getElem?_table_snapshot (h : s.Holds schema) (hnames : schema.NulFreeNames)
    {name : String} (hname : NulFree name) (key : Key) :
    ((s.snapshot schema).table name)[key]? = s.get? name key := by
  cases hhas : schema.hasEntity name with
  | true => exact (h.filed hnames).getElem?_table_snapshot hname hhas key
  | false =>
    rw [table_snapshot_of_absent s hhas]
    cases hr : s.get? name key with
    | none => simp
    | some r =>
      obtain ⟨e, he, -⟩ := h.entity_of_get? hnames hname hr
      rw [Schema.hasEntity_of_entity? he] at hhas
      cases hhas

/-- A store without records holds every schema. -/
theorem holds_ofSchema (schema : Schema) (version : Nat) : (ofSchema schema version).Holds schema :=
  fun bytes r hr => by simp [ofSchema, empty] at hr

/-- Storing a record of an entity with nothing wrong with it keeps what a store holds. -/
theorem Holds.putRecord (h : s.Holds schema) {name : String} {e : Entity}
    (he : schema.entity? name = some e) {r : Record} (hissues : e.issues r = []) :
    (s.putRecord name r).Holds schema := by
  intro bytes r' hr'
  rcases records_putRecord_cases hr' with ⟨rfl, rfl⟩ | hold
  · exact ⟨name, e, he, rfl, hissues⟩
  · exact h bytes r' hold

end Store

/-- A validated draft holds in each touched table only records with which nothing is wrong. -/
theorem Draft.issues_of_validate {d : Draft} {next : Schema} {transformed : Option String}
    (h : d.validate next transformed = .ok ()) {name : String} (htouched : d.Touched name)
    {key : Key} {r : Record} (hr : (d.table name)[key]? = some r) :
    ∃ e, next.entity? name = some e ∧ e.issues r = [] := by
  unfold validate at h
  rw [forM_eq_ok_iff] at h
  have htable := h (name, d.table name)
    (Std.ExtTreeMap.mem_toList_iff_getElem?_eq_some.2 (getElem?_tables htouched))
  unfold checkTable at htable
  dsimp only at htable
  split at htable
  · cases htable
  next e he =>
  rw [forM_eq_ok_iff] at htable
  have hrecord := htable r (mem_values_iff.2 ⟨key, hr⟩)
  unfold checkRecord at hrecord
  split at hrecord
  · next hissues => exact ⟨e, he, hissues⟩
  · cases hrecord

/-- The plan of a step leaves in a store of a schema what its draft holds. -/
theorem Step.Covers.get?_of_holds {s : Store} {step : Step} {live next : Schema} {d : Draft}
    {edits : Std.ExtTreeMap String (Option Value)} (h : Covers step next (s.snapshot live) d)
    (hs : s.Holds live) (hlive : live.NulFreeNames) (hnext : next.NulFreeNames) {name : String}
    (hname : NulFree name) (key : Key) :
    (s.applyWrites (transactionOf step next d edits).writes).get? name key =
      (d.table name)[key]? := by
  by_cases htouched : d.Touched name
  · refine h.get?_of_touched hnext (hs.filed hlive) (fun name key r hr hname => ?_) htouched key
    obtain ⟨e, he, -⟩ := hs.entity_of_get? hlive hname hr
    exact Schema.hasEntity_of_entity? he
  · rw [h.get?_of_not_touched hnext hname htouched, Draft.table_of_not_touched htouched, h.snapshot,
      hs.getElem?_table_snapshot hlive hname]

/-- The plan of a step leaves in a store only records of the next schema. -/
theorem Step.Covers.holds {s : Store} {step : Step} {live next : Schema} {d : Draft}
    {edits : Std.ExtTreeMap String (Option Value)} {version : Nat}
    (h : Covers step (Registry.atVersion next version) (s.snapshot live) d)
    (haccepts : Registry.Accepts live step next) (hs : s.Holds live)
    (hlive : live.NulFreeNames) (hnext : (Registry.atVersion next version).NulFreeNames)
    {transformed : Option String}
    (hvalid : d.validate (Registry.atVersion next version) transformed = .ok ()) :
    (s.applyWrites
      (transactionOf step (Registry.atVersion next version) d edits).writes).Holds
        (Registry.atVersion next version) := by
  have hfiled := hs.filed hlive
  refine Store.holds_of_get? (h.filed hnext hfiled) fun name key r hname hr => ?_
  by_cases htouched : d.Touched name
  · rw [h.get?_of_holds hs hlive hnext hname] at hr
    exact Draft.issues_of_validate hvalid htouched hr
  · -- No edit changed the definition of a table that is not touched.
    rw [h.get?_of_not_touched hnext hname htouched] at hr
    obtain ⟨e, he, hissues⟩ := hs.entity_of_get? hlive hname hr
    refine ⟨e, Edit.applyAll_entity?_of_untouched haccepts.edits he ?_, hissues⟩
    rintro edit hmem htouch rfl
    exact htouched (h.edits edit hmem htouch)

namespace Registry

/-- A store is consistent at a version: it is stamped with it, its live schema is the one that the
history has there, the header has the fingerprint of that schema, and every record is one of that
schema, with which nothing is wrong. -/
structure Consistent (registry : Registry) (version : Nat) (s : Store) : Prop where
  /-- The store is stamped with the version. -/
  stamped : s.stamped? = some version
  /-- The live schema, its fingerprint and the records are those of the version. -/
  live : ∃ schema, registry.schemaAt? version = some schema ∧ s.schema? = some schema ∧
    s.fingerprint? = some schema.fingerprint ∧ s.Holds schema

variable {registry : Registry} {config : PassConfig} {version : Nat} {s s' : Store}
  {baseline : Schema} {steps : List Step}

/-- A store that differs in its journal and its row numbers only is as consistent. -/
theorem Consistent.congr (h : Consistent registry version s) (entry : Option JournalEntry)
    (rows : RowCounter) : Consistent registry version { s with journal? := entry, rows } :=
  ⟨h.stamped, h.live⟩

/-- A store at a version without records is consistent. -/
theorem consistent_ofSchema {schema : Schema} (h : registry.schemaAt? version = some schema) :
    Consistent registry version (.ofSchema schema version) :=
  ⟨rfl, schema, h, rfl, rfl, Store.holds_ofSchema schema version⟩

/-- A store stays consistent when a record of an entity with nothing wrong with it is stored. -/
theorem Consistent.putRecord (hs : Consistent registry version s) {schema : Schema}
    (hlive : s.schema? = some schema) {name : String} {e : Entity}
    (he : schema.entity? name = some e) {r : Record} (hissues : e.issues r = []) :
    Consistent registry version (s.putRecord name r) := by
  obtain ⟨schema', hschema, hlive', hfp, hholds⟩ := hs.live
  rw [hlive] at hlive'
  cases hlive'
  exact ⟨hs.stamped, schema, hschema, hlive, hfp, hholds.putRecord he hissues⟩

/-- A committed step takes a consistent store to one that is consistent at the next version. -/
theorem Commits.consistent (hbuild : build baseline steps = .ok registry)
    (hnames : ∀ version schema, registry.schemaAt? version = some schema → schema.NulFreeNames)
    {report : StepReport} (h : Commits registry config version s report s')
    (hs : Consistent registry version s) : Consistent registry (version + 1) s' := by
  obtain ⟨schema, hschema, -, -, hholds⟩ := hs.live
  cases h.drafted hbuild with
  | @of step live next d₁ d count fallbacks rows₁ rows edits _ hsource haccepts htarget htransformed
      hadd hvalid hstamped hcommitted =>
    subst hcommitted
    rw [hsource] at hschema
    cases hschema
    have hcovers : Step.Covers step (atVersion next (version + 1))
        (Store.snapshot { s with rows } schema) d :=
      Step.covers_of_plan haccepts htransformed hadd
    have hholds' : Store.Holds { s with rows } schema := hholds
    refine ⟨congrArg some hstamped, _, htarget, rfl, rfl, ?_⟩
    exact hcovers.holds haccepts hholds' (hnames _ _ hsource) (hnames _ _ htarget) hvalid

/-- The step from a version, if there is one, is not for the store: the fingerprint in the header can
be read, if there is one, and is not that of the schema of the version. -/
def Stray (registry : Registry) (version : Nat) (s : Store) : Prop :=
  (∃ step, registry.stepFor? version = some step) ∧
    ∃ live stored, registry.schemaAt? version = some live ∧ s.readFingerprint = .ok stored ∧
      stored ≠ some live.fingerprint

/-- The step from a version is for every store with the fingerprint of the schema of the version. -/
theorem not_stray_of_fingerprint {live : Schema} (hlive : registry.schemaAt? version = some live)
    (hfp : s.fingerprint? = some live.fingerprint) : ¬registry.Stray version s := by
  rintro ⟨-, live', stored, hlive', hread, hdiffers⟩
  rw [hlive] at hlive'
  cases hlive'
  rw [Store.readFingerprint_eq_fingerprint_iff.2 hfp] at hread
  cases hread
  exact hdiffers rfl

/-- The ways in which the step from a version fails: there is none, the fingerprint of the store
cannot be read, the step is not for the store, its transform or its revision gives up, or a record
is at fault. -/
theorem Raises.error_cases (hbuild : build baseline steps = .ok registry) {e : MigrationError}
    {rows : RowCounter} (h : Raises registry config version s e rows) :
    e = .missingStep version ∨ (∃ error, s.readFingerprint = .error error ∧ e = .storage error) ∨
      (registry.Stray version s ∧ e = .schemaInconsistency version "live schema"
        "stored schema does not match the registry at this version") ∨
      (∃ step ∈ steps, step.GivesUp e) ∨ e.faultsRecord = true := by
  cases h with
  | missing => exact .inl rfl
  | unknown hstep =>
    obtain ⟨rfl, -⟩ := stepFor?_eq_some hbuild hstep
    exact .inl rfl
  | unreadable _ hread => exact .inr (.inl ⟨_, hread, rfl⟩)
  | fingerprint hstep hsource hread hdiffers =>
    obtain ⟨rfl, -⟩ := stepFor?_eq_some hbuild hstep
    exact .inr (.inr (.inl ⟨⟨⟨_, hstep⟩, _, _, hsource, hread, hdiffers⟩, rfl⟩))
  | plan hstep hsource htarget _ hplan =>
    obtain ⟨-, hmem⟩ := stepFor?_eq_some hbuild hstep
    obtain ⟨rfl, next₀, haccepts, rfl⟩ := accepts_of_schemaAt? hbuild hstep hsource htarget
    rcases Step.plan_error_cases haccepts _ hplan with hgives | hfaults
    · exact .inr (.inr (.inr (.inl ⟨_, hmem, hgives⟩)))
    · exact .inr (.inr (.inr (.inr hfaults)))

/-- A step that fails on a consistent store does not fail on a mismatch, unless its transform or its
revision says so. -/
theorem Raises.isMismatch (hbuild : build baseline steps = .ok registry)
    (hgivesUp : ∀ step ∈ steps, ∀ e, step.GivesUp e → e.isMismatch = false)
    {e : MigrationError} {rows : RowCounter} (h : Raises registry config version s e rows)
    (hs : Consistent registry version s) : e.isMismatch = false := by
  rcases h.error_cases hbuild with
    rfl | ⟨_, -, rfl⟩ | ⟨hstray, -⟩ | ⟨step, hmem, hgives⟩ | hfaults
  · rfl
  · rfl
  · obtain ⟨schema, hschema, -, hfp, -⟩ := hs.live
    exact absurd hstray (not_stray_of_fingerprint hschema hfp)
  · exact hgivesUp step hmem e hgives
  · exact MigrationError.isMismatch_of_faultsRecord hfaults

/-! ## A small history -/

/-- A first version that knows people by their names. -/
def people : Schema := .ofList 0 [⟨"Person", [.primary "name" .str]⟩]

theorem people_wellFormed : people.WellFormed :=
  Schema.wellFormed_ofList (by decide) (by decide) (by decide)

theorem people_nulFreeNames : people.NulFreeNames := Schema.nulFreeNames_ofList (by decide)

/-- A step that creates a table without a primary key and inserts a record into it. -/
def creation (name : String) : Step :=
  ((Step.ofSource 0 "creation").createTable ⟨name, []⟩).insert name .keyless

/-- A step that also notes every person in the new table. -/
def listing (name : String) : Step :=
  (creation name).withTransform "Person" fun r _ =>
    .ok ((Transform.Output.ofRecord r).emit name .keyless)

/-- The only name that a listing creates is its own. -/
theorem nulFree_of_listing {name : String} (h : NulFree name) {step : Step}
    (hstep : step ∈ [listing name]) {e : Entity} (he : Edit.createTable e ∈ step.edits) :
    NulFree e.name := by
  cases List.mem_singleton.1 hstep
  cases List.mem_singleton.1 he
  exact h

/-- A store of the first version in which one person is known. -/
def onePerson : Store := (Store.ofSchema people 0).putRecord "Person" (.keyed "name" (.str "Ann"))

theorem onePerson_holds : onePerson.Holds people := (Store.holds_ofSchema people 0).putRecord rfl rfl

end Registry

end Strata
