import Strata.Messages.Preferences
import Strata.Proofs.Stepping

/-!
# Runs that are cut off

A run that is cut off leaves the store of its last write before the cut (`Run.interruptions`): the
steps up to some version are committed, and the journal of the run is still open
(`Registry.CutAt`). Taking the other steps from there gives what the whole run gives
(`Registry.Passes.endsAs_walk`), since a step reads nothing that its predecessors did not commit.
So a store over which runs were cut off any number of times (`Registry.Interrupted`) ends up, by
the first run that is not, where a single run would have taken it: no step is lost and none is
taken twice (`Registry.run_of_interrupted`).
-/

namespace Strata

/-- The stores that a run leaves when it is cut off after one of its writes. The last write is left
out: it ends the run. -/
def Run.interruptions (r : Run) : List Store := r.writes.dropLast

/-- The writes of what a run did before come first. -/
theorem Run.writes_after (events : List Event) (r : Run) :
    (r.after events).writes = (Run.writes { r with events }) ++ r.writes :=
  List.filterMap_append

/-- A run that wrote once more before is cut off after that write, or later. -/
theorem Run.mem_interruptions_of_after {r : Run} {s w : Store} {phase : Phase}
    (h : w ∈ (r.after [.wrote s, .advanced phase]).interruptions) :
    w = s ∨ w ∈ r.interruptions := by
  unfold Run.interruptions at h ⊢
  rw [Run.writes_after] at h
  change w ∈ (s :: r.writes).dropLast at h
  cases hwrites : r.writes with
  | nil =>
    rw [hwrites] at h
    cases h
  | cons first others =>
    rw [hwrites, List.dropLast_cons_cons] at h
    exact List.mem_cons.1 h

namespace Registry

variable {baseline : Schema} {steps : List Step} {registry : Registry} {config : PassConfig}
  {version target : Nat} {s s' w : Store}

/-! ## Where a run is cut off -/

/-- A store at which a run over `s` was cut off when it had committed the steps up to some version:
what they committed is there, and the journal of the run, which nothing has closed. -/
structure CutAt (registry : Registry) (config : PassConfig) (version : Nat) (s : Store)
    (target : Nat) (w : Store) : Prop where
  /-- The run had not gone beyond the current version. -/
  le : target ≤ registry.currentVersion
  /-- The steps that were committed, and the store that they leave. -/
  steps : ∃ reports s', Passes registry config version s reports target s' ∧
    w = { s' with journal? := w.journal? }
  /-- The journal of the run. -/
  journal : ∃ j, w.journal? = some (.readable j) ∧ j.status = .running

/-- The journal that a run begins with plays no part in where it is cut off. -/
theorem CutAt.withJournal {entry : Option JournalEntry}
    (h : CutAt registry config version { s with journal? := entry } target w) :
    CutAt registry config version s target w := by
  obtain ⟨reports, s', hpasses, hw⟩ := h.steps
  exact ⟨h.le, ⟨reports, _, hpasses.withJournal s.journal?, hw⟩, h.journal⟩

/-- A run is cut off at the version that its committed steps lead to. -/
theorem CutAt.stamped (hbuild : build baseline steps = .ok registry)
    (h : CutAt registry config version s target w) (hs : s.stamped? = some version) :
    w.stamped? = some target := by
  obtain ⟨reports, s', hpasses, hw⟩ := h.steps
  have hreached : s'.stamped? = some target := (hpasses.stamped hbuild hs).1
  rw [hw]
  exact hreached

/-- A run that takes its remaining steps is cut off after one of them. -/
theorem exists_cutAt_of_walk (hbuild : build baseline steps = .ok registry) {config : RunConfig}
    {count : Nat} {journal : Journal} {before : List StepReport}
    (hcount : version + count = registry.currentVersion) (hrunning : journal.status = .running)
    (hw : w ∈ (registry.walk config count version journal before s).interruptions) :
    ∃ target, CutAt registry config.pass version s target w := by
  induction count generalizing version journal before s with
  | zero =>
    -- The conclusion writes once, and that ends the run.
    unfold walk conclude at hw
    split at hw
    · cases hw
    · cases hw
  | succ count ih =>
    rcases registry.commits_or_raises config.pass version s with
      ⟨report, s₁, hcommits⟩ | ⟨e, rows, hraises⟩
    · rw [walk_of_commits hbuild hcommits] at hw
      rcases Run.mem_interruptions_of_after hw with rfl | hw
      · -- The cut is right after this step.
        exact ⟨version + 1, by omega, ⟨[report], s₁, .step hcommits (.none _ s₁), rfl⟩, _, rfl,
          hrunning⟩
      · have hnext : version + 1 + count = registry.currentVersion := by omega
        have hopen : (journal.completeStep version report.written report.fallbacks).status =
            .running := hrunning
        obtain ⟨target, hcut⟩ := ih hnext hopen hw
        obtain ⟨reports, s', hpasses, hs'⟩ := hcut.withJournal.steps
        exact ⟨target, hcut.le, ⟨report :: reports, s', .step hcommits hpasses, hs'⟩, hcut.journal⟩
    · rw [walk_of_raises hbuild hraises] at hw
      cases hw

/-- A run is cut off only if it has begun to bring an older store to the current version. -/
theorem exists_cutAt_of_run (hbuild : build baseline steps = .ok registry) {config : RunConfig}
    (hw : w ∈ (registry.run config s).interruptions) :
    ∃ version target, s.stamped? = some version ∧ version < registry.currentVersion ∧
      registry.run config s =
        (registry.migrate config version s).after [.entered (.idle version)] ∧
      CutAt registry config.pass version s target w := by
  rcases registry.run_cases config s with
    ⟨-, hwrites, -⟩ | ⟨-, -, hrun⟩ | ⟨version, hs, hlt, hrun⟩
  · unfold Run.interruptions at hw
    rw [hwrites] at hw
    cases hw
  · rw [hrun] at hw
    cases hw
  · have hmigrate : w ∈ (registry.migrate config version s).interruptions := by
      rw [hrun] at hw
      exact hw
    rcases Run.mem_interruptions_of_after hmigrate with rfl | hwalk
    · -- The cut is right after the journal was begun.
      exact ⟨version, version, hs, hlt, hrun, Nat.le_of_lt hlt, ⟨[], s, .none _ s, rfl⟩, _, rfl,
        rfl⟩
    · obtain ⟨target, hcut⟩ := exists_cutAt_of_walk hbuild
        (Nat.add_sub_cancel' (Nat.le_of_lt hlt)) rfl hwalk
      exact ⟨version, target, hs, hlt, hrun, hcut.withJournal⟩

/-! ## Runs that end alike -/

/-- A run ends as another does: it leaves the same store apart from the journal, succeeds if the
other does, and fails with the error of the other if that came before the current version was
reached. -/
structure EndsAs (registry : Registry) (r other : Run) : Prop where
  /-- The stores are the same apart from the journal. -/
  store : r.store = { other.store with journal? := r.store.journal? }
  /-- The run succeeds if the other does. -/
  success : ∀ report, other.outcome = .ok report → ∃ report', r.outcome = .ok report'
  /-- The run fails with the error of a step of the other. -/
  failure : ∀ e, other.outcome = .error e → other.store.stamped? ≠ some registry.currentVersion →
    r.outcome = .error e

theorem EndsAs.refl (r : Run) : EndsAs registry r r :=
  ⟨rfl, fun report h => ⟨report, h⟩, fun _ h _ => h⟩

theorem EndsAs.trans {r₁ r₂ r₃ : Run} (h₁ : EndsAs registry r₁ r₂) (h₂ : EndsAs registry r₂ r₃) :
    EndsAs registry r₁ r₃ := by
  have hstore : r₁.store = { r₃.store with journal? := r₁.store.journal? } := calc
    r₁.store = { r₂.store with journal? := r₁.store.journal? } := h₁.store
    _ = { r₃.store with journal? := r₁.store.journal? } := by rw [h₂.store]
  have hstamped : r₂.store.stamped? = r₃.store.stamped? := by
    rw [h₂.store]
    rfl
  refine ⟨hstore, fun report h => ?_, fun e h hne => ?_⟩
  · obtain ⟨report', h'⟩ := h₂.success report h
    exact h₁.success report' h'
  · exact h₁.failure e (h₂.failure e h hne) (hstamped ▸ hne)

/-- What a run did before plays no part in how it ends. -/
theorem EndsAs.after_left {r other : Run} (h : EndsAs registry r other) (events : List Event) :
    EndsAs registry (r.after events) other := ⟨h.store, h.success, h.failure⟩

/-- What the other run did before plays no part in how it ends. -/
theorem EndsAs.after_right {r other : Run} (h : EndsAs registry r other) (events : List Event) :
    EndsAs registry r (other.after events) := ⟨h.store, h.success, h.failure⟩

/-- The journal plays no part in the conclusion of a run. -/
theorem conclude_endsAs (config : RunConfig) (entry : Option JournalEntry) (j j' : Journal)
    (before before' : List StepReport) (s : Store) :
    EndsAs registry (registry.conclude config j before { s with journal? := entry })
      (registry.conclude config j' before' s) := by
  have hcheck : Checker.check { s with journal? := entry } registry config.verifyRecords =
      Checker.check s registry config.verifyRecords := rfl
  unfold conclude
  rw [hcheck]
  cases Checker.check s registry config.verifyRecords with
  | error e => exact ⟨rfl, fun _ h => (by cases h), fun _ h _ => h⟩
  | ok _ => exact ⟨rfl, fun _ _ => ⟨_, rfl⟩, fun _ h => (by cases h)⟩

/-- The journal plays no part in the steps that a run takes, nor in how it ends. -/
theorem walk_endsAs (hbuild : build baseline steps = .ok registry) (config : RunConfig)
    (entry : Option JournalEntry) {count : Nat} {j j' : Journal}
    {before before' : List StepReport} :
    EndsAs registry (registry.walk config count version j before { s with journal? := entry })
      (registry.walk config count version j' before' s) := by
  induction count generalizing version j j' before before' s entry with
  | zero => exact conclude_endsAs config entry j j' before before' s
  | succ count ih =>
    rcases registry.commits_or_raises config.pass version s with
      ⟨report, s₁, hcommits⟩ | ⟨e, rows, hraises⟩
    · -- Both commit the same, each with its own journal.
      rw [walk_of_commits hbuild hcommits, walk_of_commits hbuild (hcommits.withJournal entry)]
      exact ((ih (s := s₁.writeJournal _) _).after_left _).after_right _
    · -- Both raise the same error and use up the same row numbers.
      rw [walk_of_raises hbuild hraises, walk_of_raises hbuild (hraises.withJournal entry)]
      exact ⟨rfl, fun _ h => (by cases h), fun _ h _ => h⟩

/-- Committed steps do not lead back. -/
theorem Passes.le {reports : List StepReport}
    (h : Passes registry config version s reports target s') : version ≤ target := by
  induction h with
  | none => exact Nat.le_refl _
  | step _ _ ih => omega

/-- The steps that are left after some were committed end as all of them do. -/
theorem Passes.endsAs_walk (hbuild : build baseline steps = .ok registry) {config : RunConfig}
    {reports : List StepReport} (h : Passes registry config.pass version s reports target s')
    (hle : target ≤ registry.currentVersion) (entry : Option JournalEntry) {j j' : Journal}
    {before before' : List StepReport} :
    EndsAs registry
      (registry.walk config (registry.currentVersion - target) target j before
        { s' with journal? := entry })
      (registry.walk config (registry.currentVersion - version) version j' before' s) := by
  induction h generalizing j' before' with
  | none version s => exact walk_endsAs hbuild config entry
  | @step version target s s₁ s' report more first rest ih =>
    have hlt : version + 1 ≤ target := rest.le
    obtain ⟨count, hcount⟩ : ∃ count, registry.currentVersion - version = count + 1 :=
      ⟨registry.currentVersion - (version + 1), by omega⟩
    have hrest : registry.currentVersion - (version + 1) = count := by omega
    -- The step was committed along with a journal, which the rest of the run does not read.
    have hjournal : EndsAs registry
        (registry.walk config count (version + 1) j' before' s₁)
        (registry.walk config count (version + 1)
          (j'.completeStep version report.written report.fallbacks) (before' ++ [report])
          (s₁.writeJournal (j'.completeStep version report.written report.fallbacks))) :=
      walk_endsAs hbuild config s₁.journal? (s := s₁.writeJournal _)
    rw [hrest] at ih
    rw [hcount, walk_of_commits hbuild first]
    exact ((ih hle).trans hjournal).after_right _

/-- A run over a store at which a run was cut off takes the steps that are left. -/
theorem run_endsAs_walk (hbuild : build baseline steps = .ok registry) {config : RunConfig}
    (hs : s.stamped? = some version) (hle : version ≤ registry.currentVersion) {j : Journal}
    (hj : s.journal? = some (.readable j)) (hrunning : j.status = .running) :
    EndsAs registry (registry.run config s)
      (registry.walk config (registry.currentVersion - version) version j [] s) := by
  have hread : s.readJournal = .ok (some j) := by
    unfold Store.readJournal
    rw [hj]
  have hfree : blocks config (some j) = none := by
    refine blocks_eq_none fun j' hj' hfailed => ?_
    cases hj'
    rw [hrunning] at hfailed
    cases hfailed
  by_cases hcurrent : version = registry.currentVersion
  · -- There is nothing left to do but the final check, which changes no more than the journal.
    subst hcurrent
    rw [run_eq_unchanged hs hread hfree, Nat.sub_self]
    unfold walk conclude
    cases Checker.check s registry config.verifyRecords with
    | error e => exact ⟨rfl, fun _ h => (by cases h), fun _ _ hne => absurd hs hne⟩
    | ok _ => exact ⟨rfl, fun _ _ => ⟨_, rfl⟩, fun _ h => (by cases h)⟩
  · rw [run_eq_migrate hs (by omega) hread hfree]
    have hwalk : EndsAs registry
        (registry.walk config (registry.currentVersion - version) version
          (.begin version registry.currentVersion) []
          (s.writeJournal (.begin version registry.currentVersion)))
        (registry.walk config (registry.currentVersion - version) version j [] s) :=
      walk_endsAs hbuild config _
    exact (hwalk.after_left _).after_left _

/-! ## Stores over which runs were cut off -/

/-- Steps committed after others were committed. -/
theorem Passes.append {reports more : List StepReport} {middle : Nat} {s₁ : Store}
    (h : Passes registry config version s reports middle s₁)
    (hmore : Passes registry config middle s₁ more target s') :
    Passes registry config version s (reports ++ more) target s' := by
  induction h with
  | none => exact hmore
  | step first _ ih => exact .step first (ih hmore)

/-- Steps committed from a store are committed from one that differs in its journal only. -/
theorem Passes.changeJournal {reports : List StepReport}
    (h : Passes registry config version w reports target s')
    (hw : w = { s with journal? := w.journal? }) :
    Passes registry config version s reports target { s' with journal? := s.journal? } := by
  have hsame : { w with journal? := s.journal? } = s := by rw [hw]
  exact hsame ▸ h.withJournal s.journal?

/-- What a store becomes when one run after another over it is cut off. -/
inductive Interrupted (registry : Registry) (config : RunConfig) (s : Store) : Store → Prop
  /-- No run has been begun. -/
  | start : Interrupted registry config s s
  /-- One more run was begun and cut off. -/
  | cut {w w' : Store} (h : Interrupted registry config s w)
      (hcut : w' ∈ (registry.run config w).interruptions) : Interrupted registry config s w'

/-- A run over a store at which a run was cut off ends as the run that was cut off would have. -/
theorem endsAs_of_interruption (hbuild : build baseline steps = .ok registry) {config : RunConfig}
    (hw : w ∈ (registry.run config s).interruptions) :
    EndsAs registry (registry.run config w) (registry.run config s) := by
  obtain ⟨version, target, hs, hlt, hrun, hcut⟩ := exists_cutAt_of_run hbuild hw
  obtain ⟨reports, s', hpasses, hw'⟩ := hcut.steps
  obtain ⟨j, hj, hrunning⟩ := hcut.journal
  have hstamped : w.stamped? = some target := hcut.stamped hbuild hs
  -- From the cut on there are the steps that are left, and they end as all of them do.
  have hleft : EndsAs registry (registry.run config w)
      (registry.walk config (registry.currentVersion - target) target j [] w) :=
    run_endsAs_walk hbuild hstamped hcut.le hj hrunning
  have hwhole : EndsAs registry
      (registry.walk config (registry.currentVersion - target) target j []
        { s' with journal? := w.journal? })
      (registry.walk config (registry.currentVersion - version) version
        (.begin version registry.currentVersion) []
        (s.writeJournal (.begin version registry.currentVersion))) :=
    (hpasses.withJournal (some (.readable (.begin version registry.currentVersion)))).endsAs_walk
      hbuild hcut.le w.journal?
  rw [← hw'] at hwhole
  rw [hrun]
  exact ((hleft.trans hwhole).after_right _).after_right _

/-- The steps that runs over a store committed before they were cut off. -/
theorem Interrupted.passes (hbuild : build baseline steps = .ok registry) {config : RunConfig}
    (h : Interrupted registry config s w) (hs : s.stamped? = some version) :
    ∃ reports middle s', Passes registry config.pass version s reports middle s' ∧
      w = { s' with journal? := w.journal? } := by
  induction h with
  | start => exact ⟨[], version, s, .none _ s, rfl⟩
  | @cut w w' _ hcut ih =>
    obtain ⟨reports, middle, s₁, hpasses, hw⟩ := ih
    obtain ⟨middle', target, hstamped, -, -, hat⟩ := exists_cutAt_of_run hbuild hcut
    obtain ⟨more, s₂, hmore, hw'⟩ := hat.steps
    -- The run that was cut off began at the version that the runs before it had reached.
    have hmiddle : middle' = middle := by
      have hreached : w.stamped? = some middle :=
        (congrArg Store.stamped? hw).trans (hpasses.stamped hbuild hs).1
      rw [hreached] at hstamped
      exact (Option.some.inj hstamped).symm
    subst hmiddle
    exact ⟨reports ++ more, target, _, hpasses.append (hmore.changeJournal hw), hw'⟩

/-- The steps that a run over a store with a version commits. -/
theorem exists_passes_run (registry : Registry) (config : RunConfig)
    (hs : s.stamped? = some version) :
    ∃ reports target s', Passes registry config.pass version s reports target s' ∧
      (registry.run config s).store = { s' with
        journal? := (registry.run config s).store.journal?
        rows := (registry.run config s).store.rows } := by
  rcases registry.run_cases config s with
    ⟨-, -, hstore⟩ | ⟨hnone, -, -⟩ | ⟨version', hs', hlt, hrun⟩
  · exact ⟨[], version, s, .none _ s, by rw [hstore]⟩
  · rw [hnone] at hs
    cases hs
  · rw [hs] at hs'
    cases hs'
    have hstops : Stops registry config.pass version s [] (registry.migrate config version s) :=
      migrate_stops (Nat.le_of_lt hlt)
    obtain ⟨target, reports, s', -, hpasses, hstore, -⟩ := hstops.steps
    rw [hrun]
    exact ⟨reports, target, s', hpasses, hstore⟩

/-- **Runs that are cut off are taken up where they stopped.** However often runs over a store are
cut off after the journal was begun or after a step, the first run that is not leaves the store that
a single run would have left, apart from the journal, succeeds if the single run does, and fails
with the same error if the single run fails before the current version. All runs together commit
each step from the version of the store on once, in order. -/
theorem run_of_interrupted (hbuild : build baseline steps = .ok registry) {config : RunConfig}
    (h : Interrupted registry config s w) :
    (registry.run config w).store =
        { (registry.run config s).store with journal? := (registry.run config w).store.journal? } ∧
      (∀ report, (registry.run config s).outcome = .ok report →
        ∃ report', (registry.run config w).outcome = .ok report') ∧
      (∀ e version, (registry.run config s).outcome = .error e →
        (registry.run config s).store.stamped? = some version →
        version < registry.currentVersion →
        (registry.run config w).outcome = .error e ∧
          (registry.run config w).store.stamped? = some version) ∧
      ∀ version, s.stamped? = some version →
        ∃ reports middle s₁ more target s₂,
          Passes registry config.pass version s reports middle s₁ ∧
          w = { s₁ with journal? := w.journal? } ∧
          Passes registry config.pass middle s₁ more target s₂ ∧
          (registry.run config w).store = { s₂ with
            journal? := (registry.run config w).store.journal?
            rows := (registry.run config w).store.rows } ∧
          (reports ++ more).map (·.source) = List.range' version (target - version) := by
  have hends : EndsAs registry (registry.run config w) (registry.run config s) := by
    induction h with
    | start => exact .refl _
    | cut _ hcut ih => exact (endsAs_of_interruption hbuild hcut).trans ih
  refine ⟨hends.store, hends.success, fun e version he hstamped hlt => ⟨?_, ?_⟩,
    fun version hs => ?_⟩
  · refine hends.failure e he fun hcurrent => ?_
    rw [hstamped] at hcurrent
    exact absurd (Option.some.inj hcurrent) (Nat.ne_of_lt hlt)
  · rw [hends.store]
    exact hstamped
  · obtain ⟨reports, middle, s₁, hpasses, hw⟩ := h.passes hbuild hs
    have hstamped : w.stamped? = some middle := by
      rw [hw]
      exact (hpasses.stamped hbuild hs).1
    obtain ⟨more, target, s₂, hmore, hstore⟩ := registry.exists_passes_run config hstamped
    have hmore' := hmore.changeJournal hw
    obtain ⟨-, htarget, hsources⟩ := (hpasses.append hmore').stamped hbuild hs
    refine ⟨reports, middle, s₁, more, target, _, hpasses, hw, hmore', hstore, ?_⟩
    calc (reports ++ more).map (·.source)
        = List.range' version (reports ++ more).length := hsources
      _ = List.range' version (target - version) := by rw [htarget, Nat.add_sub_cancel_left]

/-- A step that renumbers actions. -/
def renumbering : Step := (Step.ofSource 0 "renumbering").withRevision Messages.renumberActions

/-- A store of the first version with a notification action. -/
def withAction : Store :=
  { atFirst with preferences := (∅ : Preferences).insert "notifAction1" (.int 3) }

/-- A run is cut off right after it has renumbered an action, and the next run does not renumber it
again. -/
theorem run_of_interrupted_renumbering :
    ∃ registry w, build (.empty 0) [renumbering, .ofSource 1 "rest"] = .ok registry ∧
      Interrupted registry .standard withAction w ∧
      w.stamped? = some 1 ∧ w.preference? "notifAction1" = some (.int 4) ∧
      (registry.run .standard w).store.preference? "notifAction1" = some (.int 4) ∧
      Messages.renumberNotification 4 = 2 := by
  obtain ⟨registry, report, s₁, report', s₂, hbuild, hcurrent, hfirst, hsecond, hstamped, haction,
      hsame⟩ : ∃ registry report s₁ report' s₂,
        build (.empty 0) [renumbering, .ofSource 1 "rest"] = .ok registry ∧
        registry.currentVersion = 2 ∧ Commits registry .standard 0 withAction report s₁ ∧
        Commits registry .standard 1 s₁ report' s₂ ∧ s₁.stamped? = some 1 ∧
        s₁.preference? "notifAction1" = some (.int 4) ∧ s₂.preferences = s₁.preferences :=
    ⟨_, _, _, _, _, rfl, rfl, .step rfl rfl rfl rfl rfl, .step rfl rfl rfl rfl rfl, rfl, rfl, rfl⟩
  let j := Journal.begin 0 2
  let j₁ := j.completeStep 0 report.written report.fallbacks
  let j₂ := j₁.completeStep 1 report'.written report'.fallbacks
  let ending := registry.conclude .standard j₂ [report, report'] (s₂.writeJournal j₂)
  have hwalk : registry.walk .standard 2 0 j [] (withAction.writeJournal j) =
      (ending.after [.wrote (s₂.writeJournal j₂), .advanced (.stepping 2 2)]).after
        [.wrote (s₁.writeJournal j₁), .advanced (.stepping 1 2)] := by
    have hsecond' : Commits registry RunConfig.standard.pass 1 (s₁.writeJournal j₁) report'
        { s₂ with journal? := some (.readable j₁) } := hsecond.withJournal _
    have hnext := walk_of_commits hbuild hsecond' 0 j₁ [report]
    rw [hcurrent] at hnext
    rw [walk_of_commits hbuild (hfirst.withJournal (some (.readable j))), hcurrent]
    exact congrArg (Run.after _) hnext
  have hrun : registry.run .standard withAction =
      ((registry.walk .standard 2 0 j [] (withAction.writeJournal j)).after
        [.wrote (withAction.writeJournal j), .advanced (.stepping 0 2)]).after
        [.entered (.idle 0)] := by
    rw [run_eq_migrate rfl (by omega) rfl rfl]
    unfold migrate
    rw [hcurrent]
  rw [hwalk] at hrun
  -- The cut is after the second of the writes.
  have hcut : s₁.writeJournal j₁ ∈ (registry.run .standard withAction).interruptions := by
    rw [hrun]
    change _ ∈ (withAction.writeJournal j :: s₁.writeJournal j₁ :: s₂.writeJournal j₂ ::
      ending.writes).dropLast
    rw [List.dropLast_cons_cons, List.dropLast_cons_cons]
    exact List.mem_cons_of_mem _ List.mem_cons_self
  have hend : (registry.run .standard withAction).store.preferences = s₁.preferences := by
    rw [hrun]
    change (registry.conclude .standard j₂ [report, report'] (s₂.writeJournal j₂)).store.preferences
      = _
    unfold conclude
    split
    · exact hsame
    · exact hsame
  have hinterrupted := Interrupted.start.cut hcut
  obtain ⟨hstore, -⟩ := run_of_interrupted hbuild hinterrupted
  refine ⟨registry, _, hbuild, hinterrupted, hstamped, haction, ?_, rfl⟩
  rw [Store.preference?, hstore]
  change (registry.run .standard withAction).store.preferences["notifAction1"]? = _
  rw [hend]
  exact haction

end Registry

end Strata
