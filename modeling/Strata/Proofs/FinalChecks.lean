import Strata.Proofs.Checks
import Strata.Proofs.Interruptions

/-!
# What has been checked when a run succeeds

A run that takes steps looks at the store once it has taken them all, and closes its journal: the
journal is complete if that check finds nothing, and failed otherwise (`Registry.Closes`). A run
over a current store takes no steps, looks at nothing and leaves the journal as it is. So a store is
ready after a run that succeeds unless it was current before with a failed journal
(`Registry.ensureReady_iff_of_run_ok`). What a run that takes steps was told not to look at is not
looked at later either. If every such run that succeeds looks at the records, nothing is wrong with
a store whose journal is complete, however often runs over it failed or were cut off
(`Registry.violations_of_run_ok`).
-/

namespace Strata

/-- A store is ready exactly when it is at the target and its journal, if it has one, can be read
and has not failed. -/
theorem Store.ensureReady_eq_ok_iff {s : Store} {target : Nat} :
    s.ensureReady target = .ok () ↔
      s.stamped? = some target ∧
        ∀ entry, s.journal? = some entry → ∃ j, entry = .readable j ∧ j.status ≠ .failed := by
  have hstamp : s.checkStamp target = .ok () ↔ s.stamped? = some target := by
    unfold checkStamp
    rw [← readStamp_eq_some_iff]
    rcases s.readStamp with e | _ | version
    · exact ⟨nofun, nofun⟩
    · exact ⟨nofun, nofun⟩
    · dsimp only
      rw [Except.ok.injEq, Option.some.injEq]
      by_cases hsame : version = target
      · rw [if_pos hsame]
        exact ⟨fun _ => hsame, fun _ => rfl⟩
      · rw [if_neg hsame]
        exact ⟨nofun, fun h => absurd h hsame⟩
  unfold ensureReady readJournal
  cases s.journal? with
  | none => exact hstamp.trans ⟨fun h => ⟨h, nofun⟩, fun h => h.1⟩
  | some entry =>
    cases entry with
    | corrupted bytes =>
      refine ⟨nofun, fun ⟨_, h⟩ => ?_⟩
      obtain ⟨j, hj, -⟩ := h _ rfl
      cases hj
    | readable j =>
      have hfailed : j.isFailed = true ↔ j.status = .failed := beq_iff_eq
      dsimp only
      by_cases hstatus : j.status = .failed
      · rw [if_pos (hfailed.2 hstatus)]
        refine ⟨nofun, fun ⟨_, h⟩ => ?_⟩
        obtain ⟨j', hj', hne⟩ := h _ rfl
        cases hj'
        exact absurd hstatus hne
      · rw [if_neg (mt hfailed.1 hstatus), hstamp]
        refine ⟨fun h => ⟨h, fun entry hentry => ⟨j, ?_, hstatus⟩⟩, fun h => h.1⟩
        exact (Option.some.inj hentry).symm

/-- Where the journal can be read, it has a property unless there is one that does not. -/
theorem Store.forall_journal_iff {s : Store} {journal : Option Journal}
    (hread : s.readJournal = .ok journal) (p : Journal → Prop) :
    (∀ entry, s.journal? = some entry → ∃ j, entry = .readable j ∧ p j) ↔
      ¬∃ j, s.journal? = some (.readable j) ∧ ¬p j := by
  constructor
  · rintro h ⟨j, hj, hnot⟩
    obtain ⟨j', hj', hp⟩ := h _ hj
    cases hj'
    exact hnot hp
  · intro h entry hentry
    unfold readJournal at hread
    rw [hentry] at hread
    cases entry with
    | corrupted bytes => cases hread
    | readable j => exact ⟨j, rfl, by_contra fun hnot => h ⟨j, hentry, hnot⟩⟩

/-- A store at the target with a complete journal is ready. -/
theorem Store.ensureReady_of_complete {s : Store} {target : Nat} {j : Journal}
    (hs : s.stamped? = some target) (hj : s.journal? = some (.readable j))
    (hcomplete : j.status = .complete) : s.ensureReady target = .ok () := by
  refine ensureReady_eq_ok_iff.2 ⟨hs, fun entry hentry => ⟨j, ?_, ?_⟩⟩
  · exact Option.some.inj (hentry.symm.trans hj)
  · rw [hcomplete]
    exact nofun

namespace Registry

variable {baseline : Schema} {steps : List Step} {registry : Registry} {version : Nat}
  {s w : Store}

/-! ## How a run closes its journal -/

/-- A run closes its journal. If it succeeds the journal is complete and the final check of the
store has found nothing; if it fails the journal has failed. -/
structure Closes (registry : Registry) (config : RunConfig) (r : Run) : Prop where
  /-- A run that succeeds has checked the store. -/
  success : ∀ report, r.outcome = .ok report →
    Checker.check r.store registry config.verifyRecords = .ok () ∧
      ∃ j, r.store.journal? = some (.readable j) ∧ j.status = .complete
  /-- A run that fails says so. -/
  failure : ∀ e, r.outcome = .error e →
    ∃ j, r.store.journal? = some (.readable j) ∧ j.status = .failed

/-- What a run did before plays no part in how it closes. -/
theorem Closes.after {config : RunConfig} {r : Run} (h : Closes registry config r)
    (events : List Event) : Closes registry config (r.after events) := ⟨h.success, h.failure⟩

/-- A run that stops on an error says so in its journal. -/
theorem closes_stop (config : RunConfig) (journal : Journal) (e : MigrationError) (s : Store) :
    Closes registry config (stop journal e s) := by
  constructor
  · intro report hok
    cases hok
  · intro e' _
    exact ⟨_, rfl, rfl⟩

/-- The journal that closes a run plays no part in its final check. -/
theorem closes_conclude (config : RunConfig) (journal : Journal) (reports : List StepReport)
    (s : Store) : Closes registry config (registry.conclude config journal reports s) := by
  unfold conclude
  split
  · exact (closes_stop config journal _ s).after _
  · next hcheck =>
    constructor
    · intro report _
      exact ⟨hcheck, _, rfl, rfl⟩
    · intro e he
      cases he

/-- A run that takes its remaining steps closes its journal after them, or where it stops. -/
theorem closes_walk (config : RunConfig) {count : Nat} {journal : Journal}
    {reports : List StepReport} :
    Closes registry config (registry.walk config count version journal reports s) := by
  induction count generalizing version journal reports s with
  | zero => exact closes_conclude config journal reports s
  | succ count ih =>
    unfold walk
    rcases stepFrom_cases registry config.pass version journal s with
      ⟨report, s₁, j, -, hstep, -⟩ | ⟨e, rows, -, hstep⟩
    · rw [hstep]
      exact ih.after _
    · rw [hstep]
      exact closes_stop config _ e _

/-- A run over an older store closes its journal. -/
theorem closes_migrate (registry : Registry) (config : RunConfig) (version : Nat) (s : Store) :
    Closes registry config (registry.migrate config version s) :=
  (closes_walk config).after _

/-! ## The last step of a run -/

/-- A store from which one step leads to the current version, over which no run has ended. -/
structure OneStepBehind (registry : Registry) (config : PassConfig) (version : Nat) (s : Store)
    (report : StepReport) (s' : Store) : Prop where
  /-- The step leads to the current version. -/
  current : registry.currentVersion = version + 1
  /-- The store is at the version before. -/
  stamped : s.stamped? = some version
  /-- No run has been begun, or the last one was cut off. -/
  unclosed : ∃ journal, s.readJournal = .ok journal ∧ ∀ j ∈ journal, j.status = .running
  /-- The step commits. -/
  commits : Commits registry config version s report s'

section OneStepBehind

variable (config : RunConfig) {report : StepReport}

/-- The store is not current before the step. -/
theorem OneStepBehind.lt {config : PassConfig}
    (h : OneStepBehind registry config version s report w) : version < registry.currentVersion := by
  rw [h.current]
  exact Nat.lt_succ_self version

/-- The store is current after the step. -/
theorem OneStepBehind.stamped_after (hbuild : build baseline steps = .ok registry)
    {config : PassConfig} (h : OneStepBehind registry config version s report w) :
    w.stamped? = some registry.currentVersion := by
  rw [h.current]
  exact (h.commits.stamped hbuild).1

/-- A run writes its journal, commits the step with the journal, and concludes. -/
theorem OneStepBehind.run_eq (hbuild : build baseline steps = .ok registry)
    (h : OneStepBehind registry config.pass version s report w) :
    let j := (Journal.begin version (version + 1)).completeStep version report.written
      report.fallbacks
    registry.run config s =
      (registry.conclude config j [report] (w.writeJournal j)).after
        [.entered (.idle version), .wrote (s.writeJournal (.begin version (version + 1))),
          .advanced (.stepping version (version + 1)), .wrote (w.writeJournal j),
          .advanced (.stepping (version + 1) (version + 1))] := by
  intro j
  obtain ⟨journal, hread, hrunning⟩ := h.unclosed
  have hfree : blocks config journal = none := by
    refine blocks_eq_none fun j' hj' hfailed => ?_
    rw [hrunning j' hj'] at hfailed
    cases hfailed
  have hcommits : Commits registry config.pass version
      (s.writeJournal (.begin version (version + 1))) report
      { w with journal? := some (.readable (.begin version (version + 1))) } :=
    h.commits.withJournal _
  have hwalk : registry.walk config 1 version (.begin version (version + 1)) []
      (s.writeJournal (.begin version (version + 1))) =
        (registry.conclude config j [report] (w.writeJournal j)).after
          [.wrote (w.writeJournal j), .advanced (.stepping (version + 1) (version + 1))] := by
    rw [walk_of_commits hbuild hcommits, h.current]
    rfl
  have hmigrate : registry.migrate config version s =
      (registry.walk config 1 version (.begin version (version + 1)) []
        (s.writeJournal (.begin version (version + 1)))).after
        [.wrote (s.writeJournal (.begin version (version + 1))),
          .advanced (.stepping version (version + 1))] := by
    unfold migrate
    dsimp only
    rw [h.current, Nat.add_sub_cancel_left]
  rw [run_eq_migrate h.stamped h.lt hread hfree, hmigrate, hwalk]
  rfl

/-- A run that finds nothing wrong succeeds, and its journal is complete. -/
theorem OneStepBehind.run_succeeds (hbuild : build baseline steps = .ok registry)
    (h : OneStepBehind registry config.pass version s report w)
    (hcheck : Checker.check w registry config.verifyRecords = .ok ()) :
    (∃ report', (registry.run config s).outcome = .ok report' ∧ report'.isNoop = false) ∧
      ∃ j, (registry.run config s).store = w.writeJournal j ∧ j.status = .complete := by
  rw [h.run_eq config hbuild]
  unfold conclude
  split
  · next e he => cases he.symm.trans hcheck
  · exact ⟨⟨_, rfl, rfl⟩, _, rfl, rfl⟩

/-- A run that finds something wrong fails, and leaves the store at the current version. -/
theorem OneStepBehind.run_fails (hbuild : build baseline steps = .ok registry)
    (h : OneStepBehind registry config.pass version s report w) {e : MigrationError}
    (hcheck : Checker.check w registry config.verifyRecords = .error e) :
    (registry.run config s).outcome = .error e ∧
      ∃ j, (registry.run config s).store = w.writeJournal j ∧ j.status = .failed := by
  rw [h.run_eq config hbuild]
  unfold conclude
  split
  · next e' he =>
    cases he.symm.trans hcheck
    exact ⟨rfl, _, rfl, rfl⟩
  · next hok => cases hok.symm.trans hcheck

end OneStepBehind

/-- The only step of a short history, which does nothing. -/
def rest : Step := .ofSource 0 "rest"

/-- A store without a version that holds one record of a person. -/
def holding (r : Record) : Store :=
  { Store.empty with
    records := (∅ : Std.ExtTreeMap Bytes Record).insert (StorageKey.encode "Person" (.str "Ann"))
      r }

/-- A person with a name. -/
def named : Record := .keyed "name" (.str "Ann")

/-- A person without a name, which every person must have. -/
def nameless : Record := .ofKey (.str "Ann")

/-- What a check finds wrong with the record of a person. -/
def personViolations (r : Record) : List Violation :=
  (Entity.issues ⟨"Person", [.primary "name" .str]⟩ r).map fun issue =>
    .invalidRecord "Person" r.key.text issue.text

/-- A store that is stamped over the record of a person is one step behind, and after that step a
check finds what is wrong with this record, if it looks at it. -/
theorem exists_behind_holding (r : Record) : ∃ registry s report s',
    build people [rest] = .ok registry ∧ registry.stamp 0 (holding r) = .ok s ∧
      OneStepBehind registry .standard 0 s report s' ∧
      ∀ verifyRecords, Checker.violations s' registry verifyRecords =
        .ok (if verifyRecords then personViolations r else []) := by
  obtain ⟨registry, s, report, s', hbuild, hstamp, hbehind, hstamped, hfp, hread, hstored, hschema,
      horphans, hentities, hscan⟩ : ∃ registry s report s',
        build people [rest] = .ok registry ∧ registry.stamp 0 (holding r) = .ok s ∧
        OneStepBehind registry .standard 0 s report s' ∧
        s'.stamped? = some registry.currentVersion ∧
        s'.fingerprint? = some registry.fingerprint ∧
        s'.readSchema = .ok (some registry.current) ∧ s'.storedEntities = .ok ["Person"] ∧
        Checker.schemaViolations registry.current registry.current = [] ∧
        Checker.orphanViolations s' registry.current ["Person"] = [] ∧
        registry.current.entities.toList = [("Person", ⟨"Person", [.primary "name" .str]⟩)] ∧
        s'.scan "Person" = [r] :=
    ⟨_, _, _, _, rfl, rfl, ⟨rfl, rfl, ⟨none, rfl, nofun⟩, .step rfl rfl rfl rfl rfl⟩, rfl, rfl, rfl,
      rfl, rfl, rfl, rfl, rfl⟩
  have hrecords : Checker.recordViolations s' registry.current = personViolations r := by
    rw [Checker.recordViolations_eq_of_toList hentities, hscan, List.flatMap_singleton]
    rfl
  refine ⟨registry, s, report, s', hbuild, hstamp, hbehind, fun verifyRecords => ?_⟩
  rw [Checker.violations_of_current hstamped hfp hread hschema hstored horphans, hrecords]

/-! ## Stores that are ready after a run -/

/-- A run that succeeds found a current store and left it as it was, or it left a current store with
a complete journal. -/
theorem unchanged_or_complete_of_run_ok {config : RunConfig} {report : RunReport}
    (hok : (registry.run config s).outcome = .ok report) :
    (s.stamped? = some registry.currentVersion ∧ (∃ journal, s.readJournal = .ok journal) ∧
        (registry.run config s).store = s) ∨
      s.stamped? ≠ some registry.currentVersion ∧
        (registry.run config s).store.stamped? = some registry.currentVersion ∧
        ∃ j, (registry.run config s).store.journal? = some (.readable j) ∧
          j.status = .complete := by
  rcases run_ok_cases hok with
    ⟨hcurrent, hread, -, hstore⟩ | ⟨hnone, hrun⟩ | ⟨version, hs, hlt, hrun⟩
  · exact .inl ⟨hcurrent, hread, hstore⟩
  · refine .inr ⟨?_, ?_, ?_⟩
    · rw [hnone]
      exact nofun
    · rw [hrun]
      rfl
    · rw [hrun]
      exact ⟨_, rfl, rfl⟩
  · have hcloses : Closes registry config (registry.run config s) := by
      rw [hrun]
      exact (closes_migrate registry config version s).after _
    obtain ⟨hcheck, hcomplete⟩ := hcloses.success report hok
    refine .inr ⟨?_, Checker.stamped_of_check_ok hcheck, hcomplete⟩
    rw [hs, Ne, Option.some.injEq]
    exact Nat.ne_of_lt hlt

/-- **A store is ready after a run that succeeds** unless it was current before and its last run had
failed: then the run has done nothing. The journal of the store, if it has one, is complete, unless
the store was current before with a journal that was not. -/
theorem ensureReady_iff_of_run_ok {config : RunConfig} {report : RunReport}
    (hok : (registry.run config s).outcome = .ok report) :
    ((registry.run config s).store.ensureReady registry.currentVersion = .ok () ↔
        ¬(s.stamped? = some registry.currentVersion ∧
          ∃ j, s.journal? = some (.readable j) ∧ j.status = .failed)) ∧
      ((∀ entry, (registry.run config s).store.journal? = some entry →
          ∃ j, entry = .readable j ∧ j.status = .complete) ↔
        ¬(s.stamped? = some registry.currentVersion ∧
          ∃ j, s.journal? = some (.readable j) ∧ j.status ≠ .complete)) := by
  rcases unchanged_or_complete_of_run_ok hok with
    ⟨hcurrent, ⟨journal, hread⟩, hstore⟩ | ⟨hold, hcurrent, j, hj, hcomplete⟩
  · rw [hstore, Store.ensureReady_eq_ok_iff, Store.forall_journal_iff hread (·.status ≠ .failed),
      Store.forall_journal_iff hread (·.status = .complete)]
    simp only [hcurrent, true_and, ne_eq, not_not, and_self]
  · -- Both sides hold: the store was not current before, and the run has closed its journal.
    have hready := Store.ensureReady_of_complete hcurrent hj hcomplete
    refine ⟨iff_of_true hready fun h => hold h.1, iff_of_true (fun entry hentry => ?_) fun h =>
      hold h.1⟩
    exact ⟨j, Option.some.inj (hentry.symm.trans hj), hcomplete⟩

/-- A store that is stamped over a person with a name is ready after a run. -/
theorem ensureReady_iff_of_run_ok_named : ∃ registry s report,
    build people [rest] = .ok registry ∧ registry.stamp 0 (holding named) = .ok s ∧
      (registry.run .standard s).outcome = .ok report ∧
      (registry.run .standard s).store.ensureReady registry.currentVersion = .ok () := by
  obtain ⟨registry, s, report, s', hbuild, hstamp, hbehind, hviolations⟩ :=
    exists_behind_holding named
  have hcheck : Checker.check s' registry true = .ok () :=
    Checker.check_eq_ok_iff.2 (hviolations true)
  obtain ⟨⟨report', hok, -⟩, -⟩ := hbehind.run_succeeds .standard hbuild hcheck
  refine ⟨registry, s, report', hbuild, hstamp, hok, (ensureReady_iff_of_run_ok hok).1.2 ?_⟩
  rw [hbehind.stamped, hbehind.current]
  exact fun h => nomatch h.1

/-- A run over a store that is stamped over a person without a name fails, the next one succeeds if
it is told to try again, and the store is not ready. -/
theorem exists_run_ok_not_ready : ∃ registry s e report,
    build people [rest] = .ok registry ∧ registry.stamp 0 (holding nameless) = .ok s ∧
      (registry.run .standard s).outcome = .error e ∧
      (registry.run ⟨.standard, true, true⟩ (registry.run .standard s).store).outcome =
        .ok report ∧
      (registry.run ⟨.standard, true, true⟩ (registry.run .standard s).store).store.ensureReady
        registry.currentVersion ≠ .ok () := by
  obtain ⟨registry, s, report, s', hbuild, hstamp, hbehind, hviolations⟩ :=
    exists_behind_holding nameless
  have hcheck : Checker.check s' registry true =
      .error (.violations (personViolations nameless)) := by
    unfold Checker.check
    rw [hviolations true]
    rfl
  let again : RunConfig := ⟨.standard, true, true⟩
  obtain ⟨he, j, hstore, hfailed⟩ := hbehind.run_fails .standard hbuild hcheck
  have hread : (s'.writeJournal j).readJournal = .ok (some j) := rfl
  have hreached := hbehind.stamped_after hbuild
  have hcurrent : (s'.writeJournal j).stamped? = some registry.currentVersion := hreached
  have hfree : blocks again (some j) = none := blocks_eq_none fun _ _ _ => rfl
  -- The second run does nothing: the failure that the first has recorded is left in the journal.
  have hagain := run_eq_unchanged hcurrent hread hfree
  refine ⟨registry, s, _, .unchanged registry.currentVersion, hbuild, hstamp, he, ?_, ?_⟩
  · rw [hstore, hagain]
  · rw [hstore, hagain]
    intro hready
    obtain ⟨-, hentry⟩ := Store.ensureReady_eq_ok_iff.1 hready
    obtain ⟨j', hj', hne⟩ := hentry _ rfl
    cases hj'
    exact hne hfailed

/-! ## What is known of a store whose last run is complete -/

/-- What runs make of a store, whether they end or are cut off. Of the runs that end, those that
take steps and succeed look at the records. -/
inductive Driven (registry : Registry) (s : Store) : Store → Prop
  /-- No run has been begun. -/
  | start : Driven registry s s
  /-- A run ends, in whatever way. -/
  | run {s' : Store} (config : RunConfig) (h : Driven registry s s')
      (hverify : ∀ report, (registry.run config s').outcome = .ok report →
        report.isNoop = false → config.verifyRecords = true) :
      Driven registry s (registry.run config s').store
  /-- A run is cut off after a write. -/
  | cut {s' w : Store} (config : RunConfig) (h : Driven registry s s')
      (hcut : w ∈ (registry.run config s').interruptions) : Driven registry s w
  /-- Row numbers change: they are used up by a step that is cut off, or given anew when the store
  is opened again. -/
  | draw {s' : Store} (rows : RowCounter) (h : Driven registry s s') :
      Driven registry s { s' with rows }

/-- A store that has come to the current version has a journal, and if that is complete, a check
finds nothing. -/
def Audited (registry : Registry) (s : Store) : Prop :=
  ∃ version, s.stamped? = some version ∧ version ≤ registry.currentVersion ∧
    (version = registry.currentVersion →
      ∃ j, s.journal? = some (.readable j) ∧
        (j.status = .complete → Checker.violations s registry true = .ok []))

/-- An older store need not have been looked at. -/
theorem audited_of_lt (hs : s.stamped? = some version) (hlt : version < registry.currentVersion) :
    Audited registry s :=
  ⟨version, hs, Nat.le_of_lt hlt, fun hcurrent => absurd hcurrent (Nat.ne_of_lt hlt)⟩

/-- A run that takes steps looks at what it leaves. -/
theorem audited_migrate (hbuild : build baseline steps = .ok registry) {config : RunConfig}
    (hs : s.stamped? = some version) (hlt : version < registry.currentVersion)
    (hverify : ∀ report, (registry.migrate config version s).outcome = .ok report →
      config.verifyRecords = true) :
    Audited registry (registry.migrate config version s).store := by
  have hcloses : Closes registry config (registry.migrate config version s) :=
    closes_migrate registry config version s
  have hstops : Stops registry config.pass version s [] (registry.migrate config version s) :=
    migrate_stops (Nat.le_of_lt hlt)
  obtain ⟨target, reports, s', hle, hpasses, hstore, -⟩ := hstops.steps
  have hstamped : (registry.migrate config version s).store.stamped? = some target := by
    rw [hstore]
    exact (hpasses.stamped hbuild hs).1
  refine ⟨target, hstamped, hle, fun _ => ?_⟩
  cases houtcome : (registry.migrate config version s).outcome with
  | ok report =>
    obtain ⟨hcheck, j, hj, -⟩ := hcloses.success report houtcome
    refine ⟨j, hj, fun _ => ?_⟩
    rw [hverify report houtcome, Checker.check_eq_ok_iff] at hcheck
    exact hcheck
  | error e =>
    obtain ⟨j, hj, hfailed⟩ := hcloses.failure e houtcome
    refine ⟨j, hj, fun hcomplete => ?_⟩
    rw [hfailed] at hcomplete
    cases hcomplete

/-- A run that ends keeps the invariant if it looks at the records, fails or does nothing. -/
theorem audited_run (hbuild : build baseline steps = .ok registry) {config : RunConfig}
    (h : Audited registry s)
    (hverify : ∀ report, (registry.run config s).outcome = .ok report → report.isNoop = false →
      config.verifyRecords = true) : Audited registry (registry.run config s).store := by
  have ⟨version, hs, _⟩ := h
  rcases registry.run_cases config s with
    ⟨-, -, hstore⟩ | ⟨hnone, -, -⟩ | ⟨version', hs', hlt, hrun⟩
  · rw [hstore]
    exact h
  · rw [hnone] at hs
    cases hs
  · rw [hrun] at hverify ⊢
    refine audited_migrate hbuild hs' hlt fun report hok => hverify report hok ?_
    -- A run that takes steps does not report that it did nothing.
    by_contra hnoop
    rw [Bool.not_eq_false] at hnoop
    exact not_idle_migrate hbuild hs' hlt [.entered (.idle version')] (.inr ⟨report, hok, hnoop⟩)

/-- A run that is cut off has not completed its journal. -/
theorem audited_cut (hbuild : build baseline steps = .ok registry) {config : RunConfig}
    (hcut : w ∈ (registry.run config s).interruptions) : Audited registry w := by
  obtain ⟨version, target, hs, -, -, hat⟩ := exists_cutAt_of_run hbuild hcut
  obtain ⟨j, hj, hrunning⟩ := hat.journal
  refine ⟨target, hat.stamped hbuild hs, hat.le, fun _ => ⟨j, hj, fun hcomplete => ?_⟩⟩
  rw [hrunning] at hcomplete
  cases hcomplete

/-- Runs keep the invariant, however they end. -/
theorem Driven.audited (hbuild : build baseline steps = .ok registry) (hs : Audited registry s)
    (h : Driven registry s w) : Audited registry w := by
  induction h with
  | start => exact hs
  | run config _ hverify ih => exact audited_run hbuild ih hverify
  | cut config _ hcut _ => exact audited_cut hbuild hcut
  | draw rows _ ih => exact ih

/-- **Nothing is wrong with a store after a run that succeeds.** A store is stamped at an older
version, over whatever records there are, and then runs over it end or are cut off. If those that
take steps and succeed look at the records, a check finds nothing after a run that looks at the
records and succeeds. A run that does nothing must have found a complete journal, if any. -/
theorem violations_of_run_ok (hbuild : build baseline steps = .ok registry) {s₀ s₁ : Store}
    (hstamp : registry.stamp version s₀ = .ok s₁) (hlt : version < registry.currentVersion)
    (hdriven : Driven registry s₁ s) {config : RunConfig} {report : RunReport}
    (hverify : config.verifyRecords = true) (hok : (registry.run config s).outcome = .ok report)
    (hclosed : report.isNoop = true →
      ∀ j, s.journal? = some (.readable j) → j.status = .complete) :
    Checker.violations (registry.run config s).store registry true = .ok [] := by
  have hstamped : s₁.stamped? = some version := by
    obtain ⟨-, schema, -, rfl⟩ := exists_of_stamp_ok hstamp
    rfl
  have haudited : Audited registry s := hdriven.audited hbuild (audited_of_lt hstamped hlt)
  obtain ⟨reached, hreached, -, hcurrent⟩ := haudited
  rcases run_ok_cases hok with ⟨hs, -, hnoop, hstore⟩ | ⟨hnone, -⟩ | ⟨_, _, _, hrun⟩
  · -- The run did nothing, so an earlier one has completed the journal and looked at the records.
    obtain ⟨j, hj, hfine⟩ := hcurrent (Option.some.inj (hreached.symm.trans hs))
    rw [hstore]
    exact hfine (hclosed hnoop j hj)
  · rw [hnone] at hreached
    cases hreached
  · have hcloses : Closes registry config (registry.run config s) := by
      rw [hrun]
      exact (closes_migrate registry config _ s).after _
    obtain ⟨hcheck, -⟩ := hcloses.success report hok
    rw [hverify, Checker.check_eq_ok_iff] at hcheck
    exact hcheck

/-- A run over a store that is stamped over a person with a name is cut off before its step, and the
next one succeeds. -/
theorem violations_of_run_ok_named : ∃ registry s w report,
    build people [rest] = .ok registry ∧ 0 < registry.currentVersion ∧
      registry.stamp 0 (holding named) = .ok s ∧
      w ∈ (registry.run .standard s).interruptions ∧
      (registry.run .standard w).outcome = .ok report ∧
      Checker.violations (registry.run .standard w).store registry true = .ok [] := by
  obtain ⟨registry, s, report, s', hbuild, hstamp, hbehind, hviolations⟩ :=
    exists_behind_holding named
  have hcut : s.writeJournal (.begin 0 1) ∈ (registry.run .standard s).interruptions := by
    rw [hbehind.run_eq .standard hbuild]
    unfold conclude
    split
    · exact List.mem_cons_self
    · exact List.mem_cons_self
  -- The store at which the run was cut off is still one step behind.
  have hagain : OneStepBehind registry .standard 0 (s.writeJournal (.begin 0 1)) report
      { s' with journal? := some (.readable (.begin 0 1)) } :=
    ⟨hbehind.current, hbehind.stamped, ⟨_, rfl, fun j hj => by cases hj; rfl⟩,
      hbehind.commits.withJournal _⟩
  have hcheck : Checker.check { s' with journal? := some (.readable (.begin 0 1)) } registry true =
      .ok () := Checker.check_eq_ok_iff.2 (hviolations true)
  obtain ⟨⟨report', hok, hsteps⟩, -⟩ := hagain.run_succeeds .standard hbuild hcheck
  have hdriven : Driven registry s (s.writeJournal (.begin 0 1)) := Driven.start.cut .standard hcut
  refine ⟨registry, s, _, report', hbuild, hbehind.lt, hstamp, hcut, hok, ?_⟩
  refine violations_of_run_ok hbuild hstamp hbehind.lt hdriven rfl hok fun hnoop => ?_
  rw [hsteps] at hnoop
  cases hnoop

/-- A run that does not look at the records succeeds over a store that is stamped over a person
without a name, and a run that would look at them does nothing after it. -/
theorem exists_run_ok_violating : ∃ registry s report report',
    build people [rest] = .ok registry ∧ 0 < registry.currentVersion ∧
      registry.stamp 0 (holding nameless) = .ok s ∧
      (registry.run ⟨.standard, false, false⟩ s).outcome = .ok report ∧
      (registry.run .standard (registry.run ⟨.standard, false, false⟩ s).store).outcome =
        .ok report' ∧
      Checker.violations
        (registry.run .standard (registry.run ⟨.standard, false, false⟩ s).store).store registry
        true ≠ .ok [] := by
  obtain ⟨registry, s, report, s', hbuild, hstamp, hbehind, hviolations⟩ :=
    exists_behind_holding nameless
  have hcheck : Checker.check s' registry false = .ok () :=
    Checker.check_eq_ok_iff.2 (hviolations false)
  obtain ⟨⟨report₁, hok, -⟩, j, hstore, hcomplete⟩ :=
    hbehind.run_succeeds ⟨.standard, false, false⟩ hbuild hcheck
  have hread : (s'.writeJournal j).readJournal = .ok (some j) := rfl
  have hreached := hbehind.stamped_after hbuild
  have hcurrent : (s'.writeJournal j).stamped? = some registry.currentVersion := hreached
  have hfree : blocks .standard (some j) = none := by
    refine blocks_eq_none fun j' hj' hfailed => ?_
    cases hj'
    rw [hcomplete] at hfailed
    cases hfailed
  have hunchanged := run_eq_unchanged hcurrent hread hfree
  refine ⟨registry, s, report₁, .unchanged registry.currentVersion, hbuild, hbehind.lt, hstamp, hok,
    ?_, ?_⟩
  · rw [hstore, hunchanged]
  · rw [hstore, hunchanged]
    intro hnone
    -- A check looks at neither the journal nor who has looked before.
    cases (hviolations true).symm.trans hnone

end Registry

end Strata
