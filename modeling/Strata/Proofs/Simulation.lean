import Strata.Proofs.Interruptions
import Strata.Proofs.Totality

/-!
# Records follow their schema

Edits change a schema (`Edit.applyAll`) and records (`Edit.applyAllToRecord`) by functions of their
own. When a schema accepts edits, a record of an entity that is not cleared, edited by those of the
edits that target the entity, is a record of the entity as edited
(`Edit.issues_applyAllToRecord_eq_nil`). A step of clears and edits only (`Step.Plain`) therefore
never finds a record that does not fit, and is committed over every store in which each entity reads
records of its own (`Registry.exists_commits_of_plain`).

What an entity reads is decided by the storage keys that open with its name. A store that holds only
records of its schema reads as it should if names are apart (`Store.Holds.readsFit`); where the name
of an entity continues that of another behind the null character, the other entity reads its records
as well, and a plain step may fail (`Registry.exists_plain_step_failing`).
-/

namespace Strata

/-- A record of an entity that is not cleared, edited as the entity is, has no issues under the
entity as edited. -/
theorem Edit.issues_applyAllToRecord_eq_nil {cleared : List String} {version : Nat}
    {edits : List Edit} {schema schema' : Schema}
    (h : applyAll edits schema cleared version = .ok schema') (hdistinct : schema.DistinctFields)
    {name : String} {old : Entity} {r : Record} (hkept : name ∉ cleared)
    (hold : schema.entity? name = some old) (hr : old.issues r = []) :
    ∃ e, schema'.entity? name = some e ∧ e.issues (applyAllToRecord edits name r) = [] := by
  obtain ⟨e, he, hfits⟩ := applyAll_fits h hdistinct hkept hold (Entity.fits_iff.2 hr)
  exact ⟨e, he, Entity.fits_iff.1 hfits⟩

/-- A step of clears and edits only. -/
structure Step.Plain (step : Step) : Prop where
  /-- There is no transform. -/
  transforms : step.transforms = []
  /-- Nothing is inserted. -/
  inserts : step.inserts = []
  /-- Preferences are not revised. -/
  revision : step.revision? = none

/-- Clears and edits cannot fail once the history is built. -/
theorem Step.Plain.total {step : Step} (h : step.Plain) {live next : Schema} :
    step.Total live next := by
  have htransform : step.transform? = none := by
    unfold transform?
    rw [h.transforms]
    rfl
  refine total_of_plain htransform h.inserts fun revision hrevision => ?_
  rw [h.revision] at hrevision
  cases hrevision

/-- A run writes what it wrote before. -/
theorem Run.mem_writes_of_wrote {events : List Event} {w : Store} (h : .wrote w ∈ events)
    (r : Run) : w ∈ (r.after events).writes := by
  rw [Run.writes_after]
  exact List.mem_append_left _ (List.mem_filterMap.2 ⟨.wrote w, h, rfl⟩)

/-- What a run writes is written too when it did some things before. -/
theorem Run.mem_writes_after {r : Run} {w : Store} (h : w ∈ r.writes) (events : List Event) :
    w ∈ (r.after events).writes := by
  rw [Run.writes_after]
  exact List.mem_append_right _ h

namespace Registry

variable {registry : Registry} {baseline live : Schema} {steps : List Step} {step : Step}
  {version : Nat} {s s' : Store}

/-- A plain step is committed over every store of its schema in which entities read records of their
own. -/
theorem exists_commits_of_plain (hbuild : build baseline steps = .ok registry)
    (hstep : registry.stepFor? version = some step) (hplain : step.Plain)
    (hlive : registry.schemaAt? version = some live) (hdistinct : live.DistinctFields)
    (hfp : s.fingerprint? = some live.fingerprint) (hreads : s.ReadsFit live)
    (config : PassConfig) : ∃ report s', Commits registry config version s report s' := by
  obtain ⟨live', next, hlive', haccepts, hnext, -⟩ := exists_accepts hbuild hstep
  rw [hlive] at hlive'
  cases hlive'
  obtain ⟨rfl, -⟩ := stepFor?_eq_some hbuild hstep
  -- Nothing is inserted, so that no row number is needed.
  have hrows : step.inserts.length ≤ s.rows.left := by
    rw [hplain.inserts]
    exact Nat.zero_le _
  have htotal : step.Total live (atVersion next (step.source + 1)) := hplain.total
  obtain ⟨plan, rows, hplan, -⟩ :=
    Step.exists_plan haccepts htotal hreads.snapshot_fits hdistinct config hrows
  have htarget : registry.schemaAt? step.target = some (atVersion next (step.source + 1)) := hnext
  exact ⟨_, _, .step hstep hlive htarget hfp hplan⟩

/-- What a committed step leaves is stamped with the next version and has its schema. -/
theorem Commits.next_of_stepFor? (hbuild : build baseline steps = .ok registry)
    {config : PassConfig} {report : StepReport} (h : Commits registry config version s report s') :
    s'.stamped? = some (version + 1) ∧ s'.schema? = registry.schemaAt? (version + 1) := by
  obtain ⟨step, next, hstep, hnext, hschema, -, hstamped, -⟩ := h.header
  obtain ⟨rfl, -⟩ := stepFor?_eq_some hbuild hstep
  exact ⟨hstamped, hschema.trans hnext.symm⟩

/-- A run that is not kept from a store writes what the first step commits, with a journal. -/
theorem Commits.exists_mem_writes_run (hbuild : build baseline steps = .ok registry)
    {config : RunConfig} {report : StepReport}
    (h : Commits registry config.pass version s report s') (hs : s.stamped? = some version)
    {journal : Option Journal} (hread : s.readJournal = .ok journal)
    (hfree : blocks config journal = none) :
    ∃ j, s'.writeJournal j ∈ (registry.run config s).writes := by
  obtain ⟨step, -, hstep, -⟩ := h.header
  obtain ⟨_, _, -, -, -, hle⟩ := exists_accepts hbuild hstep
  obtain ⟨count, hcount⟩ : ∃ count, registry.currentVersion - version = count + 1 :=
    ⟨registry.currentVersion - version - 1, by omega⟩
  -- The run first writes a journal of the steps to come, which plays no part in the step.
  let journal := Journal.begin version registry.currentVersion
  have hwalk := walk_of_commits hbuild (h.withJournal (some (.readable journal))) count journal []
  refine ⟨journal.completeStep version report.written report.fallbacks, ?_⟩
  rw [run_eq_migrate hs hle hread hfree]
  refine Run.mem_writes_after ?_ _
  unfold migrate
  dsimp only
  refine Run.mem_writes_after ?_ _
  rw [hcount]
  have hstart : s.writeJournal journal = { s with journal? := some (.readable journal) } := rfl
  rw [hstart, hwalk]
  exact Run.mem_writes_of_wrote List.mem_cons_self _

/-- **Records follow their schema.** An accepted list of edits takes a record without issues of an
entity that is not cleared to a record with the same key and without issues of the entity as edited.
A plain step is therefore committed, by itself and in a run, over every store of its schema in which
each entity reads only records that have no issues; those are the stores that hold only such
records, if the names of the entities are apart. -/
theorem records_follow_schema :
    (∀ cleared version edits (schema schema' : Schema), schema.DistinctFields →
      Edit.applyAll edits schema cleared version = .ok schema' →
      ∀ name old r, name ∉ cleared → schema.entity? name = some old → old.issues r = [] →
        (Edit.applyAllToRecord edits name r).key = r.key ∧
        ∃ e, schema'.entity? name = some e ∧
          e.issues (Edit.applyAllToRecord edits name r) = []) ∧
    (∀ baseline steps registry version step live s, build baseline steps = .ok registry →
      registry.stepFor? version = some step → step.Plain →
      registry.schemaAt? version = some live → live.DistinctFields →
      s.stamped? = some version → s.fingerprint? = some live.fingerprint → s.ReadsFit live →
      (∀ config journal, ∃ report journal' s',
        registry.stepFrom config version journal s = (.ok (report, journal'), s') ∧
        s'.stamped? = some (version + 1) ∧ s'.schema? = registry.schemaAt? (version + 1)) ∧
      ∀ config journal, s.readJournal = .ok journal → blocks config journal = none →
        ∃ s' ∈ (registry.run config s).writes,
          s'.stamped? = some (version + 1) ∧ s'.schema? = registry.schemaAt? (version + 1)) ∧
    ∀ s schema, Store.Holds s schema → schema.NamesApart → s.ReadsFit schema := by
  refine ⟨fun cleared version edits schema schema' hdistinct h name old r hkept hold hr =>
    ⟨Edit.key_applyAllToRecord edits name r,
      Edit.issues_applyAllToRecord_eq_nil h hdistinct hkept hold hr⟩, ?_,
    fun s schema hs hnames => hs.readsFit hnames⟩
  intro baseline steps registry version step live s hbuild hstep hplain hlive hdistinct hs hfp hreads
  have hcommits := exists_commits_of_plain hbuild hstep hplain hlive hdistinct hfp hreads
  constructor
  · intro config journal
    obtain ⟨report, s', h⟩ := hcommits config
    have hnext := h.next_of_stepFor? hbuild
    exact ⟨report, _, _, h.stepFrom_eq hbuild journal, hnext⟩
  · intro config journal hread hfree
    obtain ⟨report, s', h⟩ := hcommits config.pass
    obtain ⟨j, hmem⟩ := h.exists_mem_writes_run hbuild hs hread hfree
    have hnext := h.next_of_stepFor? hbuild
    exact ⟨_, hmem, hnext⟩

/-- A step that adds an age to people, replaces it by one in words, and gives everyone friends. -/
def growth : Step :=
  ((((Step.ofSource 0 "growth").addField "Person"
      ((Field.plain "age" .int).withDefault (.int 0))).removeField "Person" "age").addField
        "Person" (.optional "age" .str)).addReferenceList "Person" "friends" "Person"

/-- A person grows with the schema, and the step is committed. -/
theorem records_follow_schema_growth :
    ∃ registry next e report journal s', build people [growth] = .ok registry ∧ growth.Plain ∧
      onePerson.ReadsFit people ∧
      Edit.applyAll growth.edits people [] 0 = .ok next ∧ next.entity? "Person" = some e ∧
      e.issues (Edit.applyAllToRecord growth.edits "Person" (.keyed "name" (.str "Ann"))) = [] ∧
      registry.stepFrom .standard 0 (.begin 0 1) onePerson = (.ok (report, journal), s') ∧
      s'.stamped? = some 1 := by
  obtain ⟨hsimulates, hcommits, hreads⟩ := records_follow_schema
  have hfit := hreads onePerson people onePerson_holds people_nulFreeNames.namesApart
  obtain ⟨registry, hbuild, hstep, hlive⟩ : ∃ registry, build people [growth] = .ok registry ∧
      registry.stepFor? 0 = some growth ∧ registry.schemaAt? 0 = some people :=
    ⟨_, rfl, rfl, rfl⟩
  have hplain : growth.Plain := ⟨rfl, rfl, rfl⟩
  obtain ⟨htaken, -⟩ := hcommits people [growth] registry 0 growth people onePerson hbuild hstep
    hplain hlive people_wellFormed.distinct rfl rfl hfit
  obtain ⟨report, journal, s', htaken, hstamped, -⟩ := htaken .standard (.begin 0 1)
  obtain ⟨next, hnext⟩ : ∃ next, Edit.applyAll growth.edits people [] 0 = .ok next := ⟨_, rfl⟩
  obtain ⟨-, e, he, hissues⟩ := hsimulates [] 0 growth.edits people next people_wellFormed.distinct
    hnext "Person" ⟨"Person", [.primary "name" .str]⟩ (.keyed "name" (.str "Ann"))
    List.not_mem_nil rfl rfl
  exact ⟨registry, next, e, report, journal, s', hbuild, hplain, hfit, hnext, he, hissues, htaken,
    hstamped⟩

/-- People, and a table whose name continues theirs behind the null character. -/
def crowd : Schema := .ofList 0 [⟨"Person", [.primary "name" .str]⟩, ⟨"Person\x00\x02", []⟩]

/-- A store with one record in the second table. -/
def oneStranger : Store :=
  (Store.ofSchema crowd 0).putRecord "Person\x00\x02" (.ofKey (.row 0))

theorem oneStranger_holds : oneStranger.Holds crowd :=
  (Store.holds_ofSchema crowd 0).putRecord rfl rfl

/-- Names have to be apart: the record of the second table is read as a person without a name, and
the step fails on it. -/
theorem exists_plain_step_failing :
    ∃ registry, build crowd [growth] = .ok registry ∧ crowd.WellFormed ∧
      registry.stepFor? 0 = some growth ∧ growth.Plain ∧ registry.schemaAt? 0 = some crowd ∧
      oneStranger.stamped? = some 0 ∧ oneStranger.schema? = some crowd ∧
      oneStranger.fingerprint? = some crowd.fingerprint ∧ oneStranger.Holds crowd ∧
      (registry.stepFrom .standard 0 (.begin 0 1) oneStranger).1 =
        .error (.invalidRecord "Person" (.row 0) "field name is missing") := by
  refine ⟨_, rfl, ?_, rfl, ⟨rfl, rfl, rfl⟩, rfl, rfl, rfl, rfl, oneStranger_holds, ?_⟩
  · exact Schema.wellFormed_ofList (by decide) (by decide) (by decide)
  · decide +kernel

end Registry

end Strata
