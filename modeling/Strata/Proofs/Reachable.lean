import Strata.Proofs.Checks
import Strata.Proofs.Stepping

/-!
# Every store that is reached is consistent

A store is reached from an empty one by stamping it, storing records and preferences in it, running
it under any configuration, and cutting runs off after any of their writes (`Registry.Reachable`).
If the history is regular (`Registry.Regular`), a store that is reached is consistent at its version
as soon as it has one, so no run ever ends on a mismatch. The invariant is `Registry.Sound`: before
a store has a version it holds no records. Every command keeps it, and a run keeps it after each of
its writes (`Registry.Keeps`).
-/

namespace Strata

namespace Registry

/-- A history over a well-formed baseline, without null characters in the names of entities, whose
transforms and revisions fail with errors of their own only. -/
structure Regular (baseline : Schema) (steps : List Step) (registry : Registry) : Prop where
  /-- The registry is that of the baseline and the steps. -/
  built : build baseline steps = .ok registry
  /-- The baseline is well formed. -/
  wellFormed : baseline.WellFormed
  /-- No entity name of the baseline holds the null character. -/
  baselineNames : baseline.NulFreeNames
  /-- No name of a created entity holds the null character. -/
  createdNames : ∀ step ∈ steps, ∀ e, Edit.createTable e ∈ step.edits → NulFree e.name
  /-- A transform that fails gives up. -/
  transforms : ∀ step ∈ steps, ∀ name t, (name, t) ∈ step.transforms → ∀ r cx e,
    t r cx = .error e → ∃ entity reason, e = .transform entity reason
  /-- A revision that fails gives up. -/
  revisions : ∀ step ∈ steps, ∀ revision, step.revision? = some revision → ∀ snapshot edits e,
    revision snapshot edits = .error e → ∃ entity reason, e = .transform entity reason

/-- The stores that an empty one becomes. -/
inductive Reachable (registry : Registry) : Store → Prop
  /-- The empty store. -/
  | empty : Reachable registry .empty
  /-- A store without a version is stamped. -/
  | stamp {s s' : Store} (version : Nat) (h : Reachable registry s)
      (hstamp : registry.stamp version s = .ok s') : Reachable registry s'
  /-- A record is stored, or refused. -/
  | insert {s : Store} (name : String) (r : Record) (h : Reachable registry s) :
      Reachable registry (s.insert name r).2
  /-- A preference is stored. -/
  | setPreference {s : Store} (name : String) (value : Value) (h : Reachable registry s) :
      Reachable registry (s.setPreference name value)
  /-- A run ends, in whatever way. -/
  | run {s : Store} (config : RunConfig) (h : Reachable registry s) :
      Reachable registry (registry.run config s).store
  /-- A run is cut off after a write. -/
  | cut {s w : Store} (config : RunConfig) (h : Reachable registry s)
      (hwrite : w ∈ (registry.run config s).writes) : Reachable registry w
  /-- Row numbers are used up: by a step that is cut off before its write, or because the store is
  opened again. -/
  | draw {s : Store} (rows : RowCounter) (h : Reachable registry s)
      (hrows : s.rows.next ≤ rows.next) : Reachable registry { s with rows }

/-- A store without a version holds no records and no schema, and one with a version is consistent
at it. -/
def Sound (registry : Registry) (s : Store) : Prop :=
  (s.stamped? = none ∧ s.records = ∅ ∧ s.schema? = none) ∨
    ∃ version, Consistent registry version s

variable {baseline : Schema} {steps : List Step} {registry : Registry} {s : Store} {version : Nat}

/-- The names of every schema of a regular history hold no null character. -/
theorem Regular.nulFreeNames (h : Regular baseline steps registry) (version : Nat) (schema : Schema)
    (hschema : registry.schemaAt? version = some schema) : schema.NulFreeNames :=
  names_of_schemaAt? h.built NulFree h.baselineNames h.createdNames hschema

/-- The current schema of a regular history has distinct field names. -/
theorem Regular.distinctFields (h : Regular baseline steps registry) :
    registry.current.DistinctFields :=
  distinctFields_of_schemaAt? h.built h.wellFormed.distinct (schemaAt?_current h.built)

/-- The transforms and the revision of a step of a regular history fail with errors of their own. -/
theorem Regular.of_givesUp (h : Regular baseline steps registry) {step : Step} (hstep : step ∈ steps)
    {e : MigrationError} (he : step.GivesUp e) : ∃ entity reason, e = .transform entity reason := by
  cases he with
  | transform ht hfails => exact h.transforms step hstep _ _ ht _ _ e hfails
  | revision hr hfails => exact h.revisions step hstep _ hr _ _ e hfails

/-- A step of a regular history does not fail on a mismatch over a consistent store. -/
theorem Regular.isMismatch_of_raises (h : Regular baseline steps registry) {config : PassConfig}
    {e : MigrationError} {rows : RowCounter} (hraises : Raises registry config version s e rows)
    (hs : Consistent registry version s) : e.isMismatch = false := by
  refine hraises.isMismatch h.built (fun step hstep e he => ?_) hs
  obtain ⟨entity, reason, rfl⟩ := h.of_givesUp hstep he
  rfl

/-! ## Runs -/

/-- A run leaves sound stores only, after each of its writes and at its end, and does not end on a
mismatch. -/
structure Keeps (registry : Registry) (r : Run) : Prop where
  /-- The store after each write is sound. -/
  writes : ∀ w, Event.wrote w ∈ r.events → registry.Sound w
  /-- The store at the end is sound. -/
  store : registry.Sound r.store
  /-- The run does not end on a mismatch. -/
  outcome : ∀ e, r.outcome = .error e → e.isMismatch = false

/-- A run that did something sound before is as sound. -/
theorem Keeps.after {r : Run} (h : Keeps registry r) {events : List Event}
    (hevents : ∀ w, Event.wrote w ∈ events → registry.Sound w) :
    Keeps registry (r.after events) := by
  refine ⟨fun w hw => ?_, h.store, h.outcome⟩
  rcases List.mem_append.1 hw with hw | hw
  · exact hevents w hw
  · exact h.writes w hw

/-- A run that stops on an error leaves the store as it was, apart from the journal. -/
theorem keeps_stop {journal : Journal} {e : MigrationError} (hs : Consistent registry version s)
    (he : e.isMismatch = false) : Keeps registry (stop journal e s) := by
  have hsound : registry.Sound (s.writeJournal (journal.fail e.message)) :=
    .inr ⟨version, hs.congr _ s.rows⟩
  refine ⟨fun w hw => ?_, hsound, fun e' he' => ?_⟩
  · simp only [stop, List.mem_cons, Event.wrote.injEq, reduceCtorEq, List.not_mem_nil,
      or_false] at hw
    exact hw ▸ hsound
  · cases he'
    exact he

/-- The conclusion of a run over a consistent store finds nothing. -/
theorem keeps_conclude (h : Regular baseline steps registry) {config : RunConfig}
    {journal : Journal} {reports : List StepReport}
    (hs : Consistent registry registry.currentVersion s) :
    Keeps registry (registry.conclude config journal reports s) := by
  have hcurrent := schemaAt?_current h.built
  unfold conclude
  split
  · next e hcheck =>
    have he := Checker.isMismatch_of_check_error hcurrent h.distinctFields
      (h.nulFreeNames _ _ hcurrent) hs hcheck
    refine (keeps_stop hs he).after fun w hw => ?_
    simp at hw
  · have hsound : registry.Sound (s.writeJournal journal.complete) :=
      .inr ⟨_, hs.congr _ s.rows⟩
    refine ⟨fun w hw => ?_, hsound, fun e he => ?_⟩
    · simp only [List.mem_cons, reduceCtorEq, Event.wrote.injEq, List.not_mem_nil, or_false,
        false_or] at hw
      exact hw ▸ hsound
    · cases he

/-- Steps taken from a consistent store leave consistent stores. -/
theorem keeps_walk (h : Regular baseline steps registry) {config : RunConfig} {count : Nat}
    {journal : Journal} {reports : List StepReport} (hs : Consistent registry version s)
    (hcount : version + count = registry.currentVersion) :
    Keeps registry (registry.walk config count version journal reports s) := by
  induction count generalizing version journal reports s with
  | zero =>
    obtain rfl : version = registry.currentVersion := hcount
    exact keeps_conclude h hs
  | succ count ih =>
    unfold walk
    rcases stepFrom_cases registry config.pass version journal s with
      ⟨report, s₁, j, hcommits, hstep, -⟩ | ⟨e, rows, hraises, hstep⟩
    · -- The store of every commit is consistent, wherever the run is cut off.
      rw [hstep]
      have hs₁ : Consistent registry (version + 1) (s₁.writeJournal j) :=
        (hcommits.consistent h.built h.nulFreeNames hs).congr _ s₁.rows
      refine (ih hs₁ (by omega)).after fun w hw => ?_
      simp only [List.mem_cons, Event.wrote.injEq, reduceCtorEq, List.not_mem_nil, or_false] at hw
      exact hw ▸ .inr ⟨_, hs₁⟩
    · -- A step that fails uses up row numbers at most.
      rw [hstep]
      have hs₁ : Consistent registry version { s with rows } := hs.congr s.journal? rows
      exact keeps_stop hs₁ (h.isMismatch_of_raises hraises hs)

/-- A run that is idle leaves the sound store that it found. -/
theorem keeps_idle {r : Run} (hidle : r.Idle) (hwrites : r.writes = [])
    (hs : registry.Sound r.store) : Keeps registry r := by
  refine ⟨fun w hw => ?_, hs, fun e he => ?_⟩
  · have hmem : w ∈ r.writes := List.mem_filterMap.2 ⟨_, hw, rfl⟩
    rw [hwrites] at hmem
    cases hmem
  · rcases hidle with ⟨e', he', hrefusal, -⟩ | ⟨report, hok, -⟩
    · rw [he] at he'
      cases he'
      cases e with
      | violations | schemaInconsistency => cases hrefusal
      | _ => rfl
    · rw [he] at hok
      cases hok

/-- A store without records is set up as a consistent one. -/
theorem keeps_setUp (h : Regular baseline steps registry) (hrecords : s.hasRecords = false) :
    Keeps registry (registry.setUp s) := by
  have hempty : s.records = ∅ := by
    rw [Store.hasRecords, Bool.not_eq_false', Std.ExtTreeMap.isEmpty_iff] at hrecords
    exact hrecords
  have hsound : registry.Sound (registry.setUp s).store := by
    refine .inr ⟨registry.currentVersion, rfl, _, schemaAt?_current h.built, rfl, rfl, ?_⟩
    intro bytes r hr
    change s.records[bytes]? = some r at hr
    rw [hempty] at hr
    simp at hr
  refine ⟨fun w hw => ?_, hsound, fun e he => ?_⟩
  · simp only [setUp, List.mem_cons, Event.wrote.injEq, reduceCtorEq, List.not_mem_nil,
      or_false] at hw
    exact hw ▸ hsound
  · cases he

/-- A run over a consistent store of an older version leaves consistent stores. -/
theorem keeps_migrate (h : Regular baseline steps registry) (config : RunConfig)
    (hs : Consistent registry version s) (hle : version ≤ registry.currentVersion) :
    Keeps registry (registry.migrate config version s) := by
  have hs₁ : Consistent registry version
      (s.writeJournal (.begin version registry.currentVersion)) := hs.congr _ s.rows
  refine (keeps_walk h hs₁ (Nat.add_sub_cancel' hle)).after fun w hw => ?_
  simp only [List.mem_cons, Event.wrote.injEq, reduceCtorEq, List.not_mem_nil, or_false] at hw
  exact hw ▸ .inr ⟨_, hs₁⟩

/-- A run over a sound store leaves sound stores, and does not end on a mismatch. -/
theorem keeps_run (h : Regular baseline steps registry) (config : RunConfig)
    (hs : registry.Sound s) : Keeps registry (registry.run config s) := by
  rcases registry.run_cases config s with
    ⟨hidle, hwrites, hstore⟩ | ⟨hnone, hrecords, hrun⟩ | ⟨version, hversion, hlt, hrun⟩
  · exact keeps_idle hidle hwrites (hstore.symm ▸ hs)
  · rw [hrun]
    exact keeps_setUp h hrecords
  · rcases hs with ⟨hnone, -⟩ | ⟨version', hs⟩
    · rw [hnone] at hversion
      cases hversion
    have hsame := hs.stamped
    rw [hversion] at hsame
    cases hsame
    rw [hrun]
    exact (keeps_migrate h config hs (Nat.le_of_lt hlt)).after fun w hw => (by simp at hw)

/-! ## The other commands -/

/-- A record that is stored fits the live schema, so a sound store stays sound. -/
theorem sound_insert (hs : registry.Sound s) (name : String) (r : Record) :
    registry.Sound (s.insert name r).2 := by
  rcases hs with ⟨hstamped, hrecords, hschema⟩ | ⟨version, hs⟩
  · -- Without a schema every record is refused.
    unfold Store.insert Store.readSchema
    rw [hschema]
    exact .inl ⟨hstamped, hrecords, hschema⟩
  refine .inr ⟨version, ?_⟩
  rcases s.insert_cases name r with
    ⟨_, rows, h⟩ | ⟨schema, e, key, rows, hread, he, -, hissues, -, h⟩
  · rw [h]
    exact ⟨hs.stamped, hs.live⟩
  · rw [h]
    have hlive : s.schema? = some schema := Store.schema?_of_readSchema hread
    have hs' : Consistent registry version { s with rows } := ⟨hs.stamped, hs.live⟩
    exact hs'.putRecord hlive he hissues

/-- A sound store that is stamped holds no records, so it is consistent at the version. -/
theorem sound_stamp {s' : Store} (hs : registry.Sound s)
    (hstamp : registry.stamp version s = .ok s') : registry.Sound s' := by
  obtain ⟨hnone, schema, hschema, rfl⟩ := exists_of_stamp_ok hstamp
  rcases hs with ⟨-, hrecords, -⟩ | ⟨version', hs⟩
  · -- Without a version there are no records that the schema would have to fit.
    refine .inr ⟨version, rfl, schema, hschema, rfl, rfl, fun bytes r hr => ?_⟩
    change s.records[bytes]? = some r at hr
    rw [hrecords] at hr
    simp at hr
  · rw [hs.stamped] at hnone
    cases hnone

/-- Every store that is reached along a regular history is sound. -/
theorem Reachable.sound (h : Regular baseline steps registry) (hs : registry.Reachable s) :
    registry.Sound s := by
  induction hs with
  | empty => exact .inl ⟨rfl, rfl, rfl⟩
  | stamp version _ hstamp ih => exact sound_stamp ih hstamp
  | insert name r _ ih => exact sound_insert ih name r
  | setPreference name value _ ih =>
    rcases ih with ⟨hstamped, hrecords, hschema⟩ | ⟨version, hs⟩
    · exact .inl ⟨hstamped, hrecords, hschema⟩
    · exact .inr ⟨version, hs.stamped, hs.live⟩
  | run config _ ih => exact (keeps_run h config ih).store
  | cut config _ hwrite ih =>
    obtain ⟨event, hmem, hevent⟩ := List.mem_filterMap.1 hwrite
    cases event with
    | wrote w =>
      cases hevent
      exact (keeps_run h config ih).writes _ hmem
    | entered | advanced => cases hevent
  | draw rows _ _ ih =>
    rcases ih with ⟨hstamped, hrecords, hschema⟩ | ⟨version, hs⟩
    · exact .inl ⟨hstamped, hrecords, hschema⟩
    · exact .inr ⟨version, hs.stamped, hs.live⟩

/-- **Stores stay consistent.** A store that is reached along a regular history is consistent at its
version as soon as it has one, and no run over it ends on a mismatch. -/
theorem consistent_of_reachable (h : Regular baseline steps registry) (hs : registry.Reachable s) :
    (∀ version, s.stamped? = some version → registry.Consistent version s) ∧
    ∀ config e, (registry.run config s).outcome = .error e →
      (∀ found, e ≠ .violations found) ∧
      ∀ version location reason, e ≠ .schemaInconsistency version location reason := by
  have hsound := hs.sound h
  constructor
  -- A sound store without a version has nothing to show; any other is consistent at its only one.
  · intro version hversion
    rcases hsound with ⟨hnone, -⟩ | ⟨version', hs⟩
    · rw [hnone] at hversion
      cases hversion
    · have hsame := hs.stamped
      rw [hversion] at hsame
      cases hsame
      exact hs
  · intro config e he
    have hmismatch := (keeps_run h config hsound).outcome e he
    constructor
    · rintro found rfl
      cases hmismatch
    · rintro version location reason rfl
      cases hmismatch

/-- A store that is stamped and in which a person is stored. -/
theorem consistent_of_reachable_person :
    ∃ registry s, Regular people [listing "Note"] registry ∧ Reachable registry s ∧
      s.count "Person" = 1 ∧ Consistent registry 0 s ∧
      ∀ e, (registry.run .standard s).outcome = .error e → ∀ found, e ≠ .violations found := by
  obtain ⟨registry, s, hbuild, hstamp, hcount, hstamped⟩ :
      ∃ registry s, build people [listing "Note"] = .ok registry ∧
        stamp registry 0 .empty = .ok s ∧
        (s.insert "Person" (.keyed "name" (.str "Ann"))).2.count "Person" = 1 ∧
        (s.insert "Person" (.keyed "name" (.str "Ann"))).2.stamped? = some 0 :=
    ⟨_, _, rfl, rfl, rfl, rfl⟩
  have hregular : Regular people [listing "Note"] registry := by
    refine ⟨hbuild, people_wellFormed, people_nulFreeNames,
      fun _ hmem _ => nulFree_of_listing (by decide) hmem, ?_, ?_⟩
    · intro step hstep name t ht r cx e he
      cases List.mem_singleton.1 hstep
      cases List.mem_singleton.1 ht
      cases he
    · intro step hstep revision hrevision
      cases List.mem_singleton.1 hstep
      cases hrevision
  have hreachable : Reachable registry (s.insert "Person" (.keyed "name" (.str "Ann"))).2 :=
    .insert _ _ (.stamp 0 .empty hstamp)
  obtain ⟨hconsistent, hrun⟩ := consistent_of_reachable hregular hreachable
  exact ⟨registry, _, hregular, hreachable, hcount, hconsistent 0 hstamped,
    fun e he => (hrun .standard e he).1⟩

end Registry

end Strata
