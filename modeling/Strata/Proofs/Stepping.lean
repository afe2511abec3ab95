import Strata.Proofs.Steps

/-!
# Runs take the steps one by one

A run either does nothing at all, or takes the steps from the version of the store on, in order and
each once, up to some version: to the current one, or to the first whose step raises an error
(`Registry.Stops`). What it leaves is what those steps committed (`Registry.Passes`); of the step
that failed there is only the journal and the row numbers that it used up.
-/

namespace Strata

/-- Whether an error is one that a run may be refused with before it begins. -/
def MigrationError.isRefusal : MigrationError → Bool
  | uninitialized | storeAhead .. | blocked _ | journalCorrupted | storage _ => true
  | _ => false

/-- Whether an event is the start or the end of a step. -/
def Event.isStepping : Event → Bool
  | .advanced (.stepping ..) => true
  | _ => false

/-- Whether a run has got beyond its first checks. -/
def Run.started (r : Run) : Bool := r.events.any Event.isStepping

/-- Whether a run has ended without taking up its work: refused by a check at its start, or with
nothing to do. -/
def Run.Idle (r : Run) : Prop :=
  (∃ e, r.outcome = .error e ∧ e.isRefusal = true ∧ r.started = false) ∨
    ∃ report, r.outcome = .ok report ∧ report.isNoop = true

/-- A journal that cannot be read is one of other bytes. -/
theorem Store.readJournal_eq_error_iff {s : Store} {e : MigrationError} :
    s.readJournal = .error e ↔
      e = .journalCorrupted ∧ ∃ bytes, s.journal? = some (.corrupted bytes) := by
  unfold readJournal
  split <;> simp_all [eq_comm]

namespace Registry

variable {registry : Registry} {config : PassConfig} {version target : Nat} {s s' : Store}

/-- Steps committed one after the other, from each version to the next. -/
inductive Passes (registry : Registry) (config : PassConfig) :
    Nat → Store → List StepReport → Nat → Store → Prop
  /-- No step. -/
  | none (version : Nat) (s : Store) : Passes registry config version s [] version s
  /-- A step and those after it. -/
  | step {version target : Nat} {s s₁ s' : Store} {report : StepReport} {more : List StepReport}
      (first : Commits registry config version s report s₁)
      (rest : Passes registry config (version + 1) s₁ more target s') :
      Passes registry config version s (report :: more) target s'

/-- The journal plays no part in committed steps. -/
theorem Passes.withJournal {reports : List StepReport}
    (h : Passes registry config version s reports target s') (entry : Option JournalEntry) :
    Passes registry config version { s with journal? := entry } reports target
      { s' with journal? := entry } := by
  induction h with
  | none version s => exact .none version _
  | step first _ ih => exact .step (first.withJournal entry) ih

/-- Where no step is registered that is the error. -/
theorem Raises.eq_missingStep {e : MigrationError} {rows : RowCounter}
    (h : Raises registry config version s e rows) (habsent : registry.stepFor? version = none) :
    e = .missingStep version := by
  cases h with
  | missing => rfl
  | unknown hfound | unreadable hfound | fingerprint hfound | plan hfound =>
    rw [habsent] at hfound
    cases hfound

/-- A report on a planned step names its version. -/
theorem source_of_plan_ok {step : Step} {live next : Schema} {rows rows' : RowCounter} {plan : Plan}
    (h : (step.plan live next config s).run.run rows = (.ok plan, rows')) :
    plan.report.source = step.source := by
  unfold Step.plan at h
  obtain ⟨⟨d₁, count, fallbacks⟩, rows₁, -, h⟩ := Drawing.bind_ok_iff.1 h
  obtain ⟨d, rows₂, -, h⟩ := Drawing.bind_ok_iff.1 h
  split at h
  · cases h
  split at h
  · cases h
  obtain ⟨rfl, -⟩ := Drawing.pure_ok_iff.1 h
  rfl

section Built

variable {baseline : Schema} {steps : List Step}

/-- A committed step leads from its version to the next, and its report names it. -/
theorem Commits.stamped (hbuild : build baseline steps = .ok registry) {report : StepReport}
    (h : Commits registry config version s report s') :
    s'.stamped? = some (version + 1) ∧ report.source = version := by
  obtain ⟨step, next, hstep, -, -, -, hstamped, -⟩ := h.header
  obtain ⟨rfl, -⟩ := stepFor?_eq_some hbuild hstep
  refine ⟨hstamped, ?_⟩
  cases h with
  | step hfound _ _ _ hplan =>
    rw [hstep] at hfound
    cases hfound
    exact source_of_plan_ok hplan

/-- Committed steps lead from version to version, and their reports name each of them once, in
order. -/
theorem Passes.stamped (hbuild : build baseline steps = .ok registry) {reports : List StepReport}
    (h : Passes registry config version s reports target s')
    (hs : s.stamped? = some version) :
    s'.stamped? = some target ∧ target = version + reports.length ∧
      reports.map (·.source) = List.range' version reports.length := by
  induction h with
  | none version s => exact ⟨hs, rfl, rfl⟩
  | step first _ ih =>
    obtain ⟨hstamped, hsource⟩ := first.stamped hbuild
    obtain ⟨hend, htarget, hmore⟩ := ih hstamped
    refine ⟨hend, ?_, ?_⟩
    · rw [htarget, List.length_cons]
      omega
    · rw [List.map_cons, List.length_cons, List.range'_succ, hsource, hmore]

/-- What a run that has begun leaves: the steps up to some version, and either that is the current
version, or the step from there has raised the error that the run ends with. -/
structure Stops (registry : Registry) (config : PassConfig) (version : Nat) (s : Store)
    (before : List StepReport) (r : Run) : Prop where
  /-- The steps that were committed, and the store that they leave. -/
  steps : ∃ target reports s', target ≤ registry.currentVersion ∧
    Passes registry config version s reports target s' ∧
    r.store = { s' with journal? := r.store.journal?, rows := r.store.rows } ∧
    (∀ report, r.outcome = .ok report →
      target = registry.currentVersion ∧ report.steps = before ++ reports) ∧
    ∀ e, r.outcome = .error e → target < registry.currentVersion →
      Raises registry config target s' e r.store.rows

/-- Events before a run do not change what it leaves. -/
theorem Stops.after {before : List StepReport} {r : Run}
    (h : Stops registry config version s before r) (events : List Event) :
    Stops registry config version s before (r.after events) := ⟨h.steps⟩

/-- The journal that a run begins with plays no part in what it leaves. -/
theorem Stops.withJournal {before : List StepReport} {r : Run} {entry : Option JournalEntry}
    (h : Stops registry config version { s with journal? := entry } before r) :
    Stops registry config version s before r := by
  obtain ⟨target, reports, s', htarget, hpasses, hstore, hok, herror⟩ := h.steps
  refine ⟨target, reports, { s' with journal? := s.journal? }, htarget,
    hpasses.withJournal s.journal?, ?_, hok, fun e he hlt => (herror e he hlt).withJournal _⟩
  exact hstore

/-- The conclusion of a run commits no step. -/
theorem conclude_stops {config : RunConfig} {journal : Journal} {before : List StepReport} :
    Stops registry config.pass registry.currentVersion s before
      (registry.conclude config journal before s) := by
  unfold conclude
  split
  · refine Stops.after ⟨_, [], s, Nat.le_refl _, .none _ s, rfl, fun report h => ?_,
      fun e _ hlt => ?_⟩ _
    · cases h
    · exact absurd hlt (Nat.lt_irrefl _)
  · refine ⟨_, [], s, Nat.le_refl _, .none _ s, rfl, fun report h => ?_, fun e h => ?_⟩
    · cases h
      exact ⟨rfl, (List.append_nil before).symm⟩
    · cases h

/-- The steps that remain are taken one by one, up to the first that raises an error. -/
theorem walk_stops {config : RunConfig} {count : Nat} {journal : Journal}
    {before : List StepReport} (hcount : version + count = registry.currentVersion) :
    Stops registry config.pass version s before
      (registry.walk config count version journal before s) := by
  induction count generalizing version journal before s with
  | zero =>
    obtain rfl : version = registry.currentVersion := hcount
    exact conclude_stops
  | succ count ih =>
    unfold walk
    rcases stepFrom_cases registry config.pass version journal s with
      ⟨report, s₁, j, hcommits, hstep, -⟩ | ⟨e, rows, hraises, hstep⟩
    · rw [hstep]
      -- The journal was written along with the step, and `Stops` does not look at it.
      have hnext : Stops registry config.pass (version + 1) s₁ (before ++ [report])
          (registry.walk config count (version + 1) j (before ++ [report]) (s₁.writeJournal j)) :=
        Stops.withJournal (ih (by omega))
      obtain ⟨target, reports, s', htarget, hpasses, hstore, hok, herror⟩ := hnext.steps
      refine Stops.after ⟨target, report :: reports, s', htarget, .step hcommits hpasses, hstore,
        fun report' h => ?_, herror⟩ _
      obtain ⟨hend, hreports⟩ := hok report' h
      exact ⟨hend, by rw [hreports, List.append_assoc, List.singleton_append]⟩
    · rw [hstep]
      refine ⟨version, [], s, by omega, .none version s, rfl, fun report h => ?_, fun e' h _ => ?_⟩
      · cases h
      · cases h
        exact hraises

/-- A run over an older store leaves what the steps from its version on committed. -/
theorem migrate_stops {config : RunConfig} (hle : version ≤ registry.currentVersion) :
    Stops registry config.pass version s [] (registry.migrate config version s) := by
  have hwalk : Stops registry config.pass version
      (s.writeJournal (.begin version registry.currentVersion)) []
      (registry.walk config (registry.currentVersion - version) version
        (.begin version registry.currentVersion) []
        (s.writeJournal (.begin version registry.currentVersion))) :=
    walk_stops (Nat.add_sub_cancel' hle)
  exact (Stops.withJournal hwalk).after _

end Built

/-- A run does nothing, sets up a store without records and version, or migrates an older store. -/
theorem run_cases (registry : Registry) (config : RunConfig) (s : Store) :
    ((registry.run config s).Idle ∧ (registry.run config s).writes = [] ∧
        (registry.run config s).store = s) ∨
      (s.stamped? = none ∧ s.hasRecords = false ∧ registry.run config s = registry.setUp s) ∨
      ∃ version, s.stamped? = some version ∧ version < registry.currentVersion ∧
        registry.run config s =
          (registry.migrate config version s).after [.entered (.idle version)] := by
  unfold run
  rcases hstamp : s.readStamp with e | _ | version
  -- A header that cannot be read stops the run before it starts.
  · exact .inl ⟨.inl ⟨_, rfl, rfl, rfl⟩, rfl, rfl⟩
  · dsimp only
    cases hrecords : s.hasRecords with
    | true => exact .inl ⟨.inl ⟨_, rfl, rfl, rfl⟩, rfl, rfl⟩
    | false => exact .inr (.inl ⟨Store.stamped?_of_readStamp hstamp, rfl, rfl⟩)
  · have hs : s.stamped? = some version := Store.stamped?_of_readStamp hstamp
    dsimp only
    unfold runFrom
    by_cases hahead : registry.currentVersion < version
    · rw [if_pos hahead]
      exact .inl ⟨.inl ⟨_, rfl, rfl, rfl⟩, rfl, rfl⟩
    rw [if_neg hahead]
    cases hjournal : s.readJournal with
    | error e =>
      -- So does a journal that cannot be read.
      obtain ⟨rfl, -⟩ := Store.readJournal_eq_error_iff.1 hjournal
      exact .inl ⟨.inl ⟨_, rfl, rfl, rfl⟩, rfl, rfl⟩
    | ok journal =>
      dsimp only
      cases blocks config journal with
      | some j => exact .inl ⟨.inl ⟨_, rfl, rfl, rfl⟩, rfl, rfl⟩
      | none =>
        dsimp only
        by_cases hcurrent : version = registry.currentVersion
        · rw [if_pos hcurrent]
          exact .inl ⟨.inr ⟨_, rfl, rfl⟩, rfl, rfl⟩
        · rw [if_neg hcurrent]
          exact .inr (.inr ⟨version, hs, by omega, rfl⟩)

/-- A run over a store with a version moves on from there. -/
theorem run_eq_runFrom (hs : s.stamped? = some version) (config : RunConfig) :
    registry.run config s = (registry.runFrom config version s).after [.entered (.idle version)] := by
  unfold run
  rw [Store.readStamp_eq_some_iff.2 hs]

/-- A store that was stamped had no version, and has been given one of the history with its
schema. -/
theorem exists_of_stamp_ok (h : registry.stamp version s = .ok s') :
    s.stamped? = none ∧ ∃ schema, registry.schemaAt? version = some schema ∧
      s' = s.commit ((Transaction.empty.setSchema schema).stamp version) := by
  unfold stamp at h
  split at h
  · cases h
  · cases h
  next hstamp =>
  split at h
  · cases h
  next schema hschema =>
  cases h
  exact ⟨Store.stamped?_of_readStamp hstamp, schema, hschema, rfl⟩

section Runnable

variable {config : RunConfig} {journal : Option Journal}

/-- A journal keeps a store from being run only if it has failed and is not tried again. -/
theorem blocks_eq_none (h : ∀ j ∈ journal, j.status = .failed → config.retryFailed = true) :
    blocks config journal = none := by
  unfold blocks
  rw [Option.filter_eq_none_iff]
  intro j hj hblocked
  obtain ⟨hfailed, hfirst⟩ := Bool.and_eq_true_iff.1 hblocked
  have hagain : config.retryFailed = true := h j hj (beq_iff_eq.1 hfailed)
  rw [hagain] at hfirst
  cases hfirst

/-- A run migrates an older store unless the journal keeps it from being run. -/
theorem run_eq_migrate (hs : s.stamped? = some version) (hlt : version < registry.currentVersion)
    (hread : s.readJournal = .ok journal) (hfree : blocks config journal = none) :
    registry.run config s =
      (registry.migrate config version s).after [.entered (.idle version)] := by
  rw [run_eq_runFrom hs]
  unfold runFrom
  rw [if_neg (Nat.lt_asymm hlt), hread]
  dsimp only
  rw [hfree]
  dsimp only
  rw [if_neg (Nat.ne_of_lt hlt)]

/-- A run does nothing to a current store. -/
theorem run_eq_unchanged (hs : s.stamped? = some registry.currentVersion)
    (hread : s.readJournal = .ok journal) (hfree : blocks config journal = none) :
    registry.run config s =
      ⟨[.entered (.idle registry.currentVersion), .advanced .finished],
        .ok (.unchanged registry.currentVersion), s⟩ := by
  rw [run_eq_runFrom hs]
  unfold runFrom
  rw [if_neg (Nat.lt_irrefl _), hread]
  dsimp only
  rw [hfree]
  dsimp only
  rw [if_pos rfl]
  rfl

end Runnable

/-- A run that succeeds over a store with a version has passed every check at its start. -/
theorem free_of_run_ok {config : RunConfig} {report : RunReport} (hs : s.stamped? = some version)
    (hok : (registry.run config s).outcome = .ok report) :
    version ≤ registry.currentVersion ∧
      ∃ journal, s.readJournal = .ok journal ∧ blocks config journal = none := by
  rw [run_eq_runFrom hs] at hok
  change (registry.runFrom config version s).outcome = .ok report at hok
  unfold runFrom at hok
  split at hok
  · cases hok
  next hahead =>
  split at hok
  · cases hok
  next journal hread =>
  split at hok
  · cases hok
  next hfree => exact ⟨Nat.le_of_not_lt hahead, journal, hread, hfree⟩

/-- A run that succeeds found a current store that nothing keeps it from running, set up a store
without records and version, or migrated an older store. -/
theorem run_ok_cases {config : RunConfig} {report : RunReport}
    (hok : (registry.run config s).outcome = .ok report) :
    (s.stamped? = some registry.currentVersion ∧ (∃ journal, s.readJournal = .ok journal) ∧
        report.isNoop = true ∧ (registry.run config s).store = s) ∨
      (s.stamped? = none ∧ registry.run config s = registry.setUp s) ∨
      ∃ version, s.stamped? = some version ∧ version < registry.currentVersion ∧
        registry.run config s =
          (registry.migrate config version s).after [.entered (.idle version)] := by
  rcases hstamp : s.readStamp with e | _ | version
  · unfold run at hok
    rw [hstamp] at hok
    cases hok
  · unfold run at hok ⊢
    rw [hstamp] at hok ⊢
    dsimp only at hok ⊢
    cases hrecords : s.hasRecords with
    | true =>
      rw [hrecords] at hok
      cases hok
    | false => exact .inr (.inl ⟨Store.stamped?_of_readStamp hstamp, rfl⟩)
  · have hs : s.stamped? = some version := Store.stamped?_of_readStamp hstamp
    obtain ⟨hle, journal, hread, hfree⟩ := free_of_run_ok hs hok
    rcases Nat.eq_or_lt_of_le hle with rfl | hlt
    · rw [run_eq_unchanged hs hread hfree] at hok ⊢
      cases hok
      exact .inl ⟨hs, ⟨journal, hread⟩, rfl, rfl⟩
    · exact .inr (.inr ⟨version, hs, hlt, run_eq_migrate hs hlt hread hfree⟩)

section Built

variable {baseline : Schema} {steps : List Step}

/-- A run over an older store has work to do. -/
theorem not_idle_migrate (hbuild : build baseline steps = .ok registry) {config : RunConfig}
    (hs : s.stamped? = some version) (hlt : version < registry.currentVersion)
    (events : List Event) : ¬((registry.migrate config version s).after events).Idle := by
  rintro (⟨e, -, -, hstarted⟩ | ⟨report, hok, hnoop⟩)
  · have hevent : ((registry.migrate config version s).after events).started = true := by
      unfold Run.started Run.after migrate
      simp [Run.after, Event.isStepping]
    rw [hevent] at hstarted
    cases hstarted
  · have hstops : Stops registry config.pass version s [] (registry.migrate config version s) :=
      migrate_stops (Nat.le_of_lt hlt)
    obtain ⟨target, reports, s', -, hpasses, -, hend, -⟩ := hstops.steps
    obtain ⟨htarget, hreports⟩ := hend report hok
    obtain ⟨-, hlength, -⟩ := hpasses.stamped hbuild hs
    rw [List.nil_append] at hreports
    -- A report without steps would leave the store at its old version.
    have hempty : reports = [] := by
      unfold RunReport.isNoop at hnoop
      rw [Bool.and_eq_true, hreports, List.isEmpty_iff] at hnoop
      exact hnoop.2
    rw [hempty, List.length_nil] at hlength
    omega

/-- A run whose first step raises an error ends on it, and leaves the store as it was, apart from the
journal and the row numbers that the step used up. -/
theorem run_of_raises (hbuild : build baseline steps = .ok registry) {config : RunConfig}
    (hs : s.stamped? = some version) (hlt : version < registry.currentVersion)
    {journal : Option Journal} (hread : s.readJournal = .ok journal)
    (hfree : blocks config journal = none) {e : MigrationError} {rows : RowCounter}
    (hraises : Raises registry config.pass version s e rows) :
    (registry.run config s).started = true ∧ (registry.run config s).outcome = .error e ∧
      ∃ j, (registry.run config s).store = Store.writeJournal { s with rows } j := by
  obtain ⟨count, hcount⟩ : ∃ count, registry.currentVersion - version = count + 1 :=
    ⟨registry.currentVersion - version - 1, by omega⟩
  let start := Journal.begin version registry.currentVersion
  have hwalk := walk_of_raises hbuild (hraises.withJournal (some (.readable start))) count start []
  have hstart : s.writeJournal start = { s with journal? := some (.readable start) } := rfl
  have hrun : registry.run config s =
      ((registry.walk config (count + 1) version start [] (s.writeJournal start)).after
        [.wrote (s.writeJournal start),
          .advanced (.stepping version registry.currentVersion)]).after
        [.entered (.idle version)] := by
    rw [run_eq_migrate hs hlt hread hfree, ← hcount]
    rfl
  rw [hrun, hstart, hwalk]
  exact ⟨rfl, rfl, _, rfl⟩

/-- **What a run leaves.** A run that is refused at its start or has nothing to do changes nothing.
Any other run over an older store commits the steps from its version on, in order and each once, up
to some version, and leaves what they committed. If it succeeds that is the current version, and its
report lists these steps; if it fails before, it fails with the error of the step from there, of
which only the journal and the row numbers used up are kept. -/
theorem run_takes_steps (hbuild : build baseline steps = .ok registry) (config : RunConfig)
    (s : Store) :
    ((registry.run config s).Idle →
      (registry.run config s).writes = [] ∧ (registry.run config s).store = s) ∧
    (¬(registry.run config s).Idle → ∀ version, s.stamped? = some version →
      version < registry.currentVersion →
      ∃ target reports s', version ≤ target ∧ target ≤ registry.currentVersion ∧
        Passes registry config.pass version s reports target s' ∧
        (registry.run config s).store.records = s'.records ∧
        (registry.run config s).store.schema? = s'.schema? ∧
        (registry.run config s).store.fingerprint? = s'.fingerprint? ∧
        (registry.run config s).store.preferences = s'.preferences ∧
        (registry.run config s).store.stamped? = some target ∧
        reports.map (·.source) = List.range' version (target - version) ∧
        (∀ report, (registry.run config s).outcome = .ok report →
          target = registry.currentVersion ∧ report.steps = reports) ∧
        ∀ e, (registry.run config s).outcome = .error e → target < registry.currentVersion →
          Raises registry config.pass target s' e (registry.run config s).store.rows ∧
          (registry.stepFor? target = none → e = .missingStep target) ∧
          (registry.run config s).store = { s' with
            journal? := (registry.run config s).store.journal?
            rows := (registry.run config s).store.rows }) := by
  rcases registry.run_cases config s with
    ⟨hidle, hwrites, hstore⟩ | ⟨hnone, -, hrun⟩ | ⟨version, hs, hlt, hrun⟩
  · exact ⟨fun _ => ⟨hwrites, hstore⟩, fun hnot => absurd hidle hnot⟩
  -- A store that is set up has no version before, and its report is not one of an idle run.
  · refine ⟨fun hidle => ?_, fun _ version hs => ?_⟩
    · rw [hrun] at hidle
      rcases hidle with ⟨e, he, -, -⟩ | ⟨report, hok, hnoop⟩
      · cases he
      · cases hok
        cases hnoop
    · rw [hnone] at hs
      cases hs
  · refine ⟨fun hidle => ?_, fun _ version' hs' _ => ?_⟩
    · rw [hrun] at hidle
      exact absurd hidle (not_idle_migrate hbuild hs hlt _)
    rw [hs] at hs'
    cases hs'
    -- The event that the run starts with commits nothing.
    have hstops : Stops registry config.pass version s [] (registry.run config s) := by
      rw [hrun]
      exact (migrate_stops (Nat.le_of_lt hlt)).after _
    obtain ⟨target, reports, s', htarget, hpasses, hstore, hok, herror⟩ := hstops.steps
    obtain ⟨hstamped, hlength, hsources⟩ := hpasses.stamped hbuild hs
    refine ⟨target, reports, s', by omega, htarget, hpasses, by rw [hstore], by rw [hstore],
      by rw [hstore], by rw [hstore], (congrArg Store.stamped? hstore).trans hstamped, ?_, hok,
      fun e he hlt => ?_⟩
    · rw [hsources, hlength, Nat.add_sub_cancel_left]
    · have hraises := herror e he hlt
      exact ⟨hraises, hraises.eq_missingStep, hstore⟩

end Built

/-- A history of a first and a third step, without the second. -/
def gapped : List Step := [.ofSource 0 "first", .ofSource 2 "third"]

/-- A store without records at the first version of such a history. -/
def atFirst : Store := .ofSchema (.empty 0) 0

/-- A run takes the step before a gap, and then fails for want of the next. -/
theorem run_takes_steps_gapped :
    ∃ registry, build (.empty 0) gapped = .ok registry ∧
      (registry.run .standard atFirst).outcome = .error (.missingStep 1) ∧
      ∃ reports s', Passes registry .standard 0 atFirst reports 1 s' ∧
        reports.map (·.source) = [0] ∧
        (registry.run .standard atFirst).store.records = s'.records := by
  obtain ⟨registry, hbuild, hcurrent, hmissing, report, journal, s₁, hstep, hs₁⟩ :
      ∃ registry, build (.empty 0) gapped = .ok registry ∧ registry.currentVersion = 3 ∧
        registry.stepFor? 1 = none ∧ ∃ report journal s₁,
          registry.stepFrom .standard 0 (.begin 0 3) (atFirst.writeJournal (.begin 0 3)) =
            (.ok (report, journal), s₁) ∧ s₁.stamped? = some 1 :=
    ⟨_, rfl, rfl, rfl, _, _, _, stepFrom_of_plan_ok rfl rfl rfl rfl rfl _, rfl⟩
  let walked := registry.walk .standard 3 0 (.begin 0 3) [] (atFirst.writeJournal (.begin 0 3))
  have hwalked : walked.outcome = .error (.missingStep 1) ∧ walked.store.stamped? = some 1 := by
    unfold walked walk
    rw [show RunConfig.standard.pass = PassConfig.standard from rfl, hstep]
    unfold walk stepFrom
    rw [hmissing]
    exact ⟨rfl, hs₁⟩
  have hend : (registry.run .standard atFirst).outcome = .error (.missingStep 1) ∧
      (registry.run .standard atFirst).store.stamped? = some 1 := by
    unfold run runFrom migrate
    rw [hcurrent]
    exact hwalked
  have hnot : ¬(registry.run .standard atFirst).Idle := by
    rintro (⟨e, he, hrefusal, -⟩ | ⟨report, hok, -⟩)
    · rw [hend.1] at he
      cases he
      cases hrefusal
    · rw [hend.1] at hok
      cases hok
  obtain ⟨target, reports, s', -, -, hpasses, hrecords, -, -, -, hstamped, hsources, -⟩ :=
    (run_takes_steps hbuild .standard atFirst).2 hnot 0 rfl (by omega)
  rw [hend.2] at hstamped
  cases hstamped
  exact ⟨registry, hbuild, hend.1, reports, s', hpasses, hsources, hrecords⟩

end Registry

end Strata
