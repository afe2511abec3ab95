import Strata.Proofs.FinalChecks

/-!
# Stores that a failed run has shut

A run that fails at its work leaves its journal behind as failed, over a store that is not ahead of
the registry (`Registry.held_of_failed`). Such a store is shut (`Registry.Held.shut`): runs are
refused before they write anything unless they are told to try again, the store cannot be stamped
again, and it is ready at no version. Nothing short of another try touches the journal or the
version, so the store stays shut however long it is used (`Registry.Held.later`).
-/

namespace Strata

/-- Whether a run has failed at its work: it got beyond its first checks, and a step was missing, a
step failed, or the final check found something wrong. -/
def Run.Failed (r : Run) : Prop := r.started = true ∧ ∃ e, r.outcome = .error e

/-- A run that has nothing to do or is refused at its start has not failed at its work. -/
theorem Run.Failed.not_idle {r : Run} (h : r.Failed) : ¬r.Idle := by
  obtain ⟨hstarted, e, he⟩ := h
  rintro (⟨_, -, -, hnot⟩ | ⟨report, hok, -⟩)
  · rw [hstarted] at hnot
    cases hnot
  · rw [he] at hok
    cases hok

namespace Registry

variable {baseline : Schema} {steps : List Step} {registry : Registry} {j : Journal} {s s' : Store}

/-- The stores that a store becomes when it is used, opened again, and run without being told to try
again. -/
inductive Later (registry : Registry) (s : Store) : Store → Prop
  /-- Nothing has been done. -/
  | refl : Later registry s s
  /-- A record is stored, or refused. -/
  | insert {s' : Store} (name : String) (r : Record) (h : Later registry s s') :
      Later registry s (s'.insert name r).2
  /-- A preference is stored. -/
  | setPreference {s' : Store} (name : String) (value : Value) (h : Later registry s s') :
      Later registry s (s'.setPreference name value)
  /-- The store is stamped. -/
  | stamp {s' s'' : Store} (version : Nat) (h : Later registry s s')
      (hstamp : registry.stamp version s' = .ok s'') : Later registry s s''
  /-- A run ends, in whatever way. -/
  | run {s' : Store} (config : RunConfig) (hretry : config.retryFailed = false)
      (h : Later registry s s') : Later registry s (registry.run config s').store
  /-- The store is closed and opened again. -/
  | reopen {s' : Store} (h : Later registry s s') : Later registry s s'.reopen

/-- A store is shut by the journal of a run that has failed. -/
structure Shut (registry : Registry) (j : Journal) (s : Store) : Prop where
  /-- The journal is stored. -/
  journal : s.journal? = some (.readable j)
  /-- It says that the run has failed. -/
  failed : j.status = .failed
  /-- A run that is not told to try again is refused, and writes nothing. -/
  run : ∀ config : RunConfig, config.retryFailed = false →
    (registry.run config s).outcome = .error (.blocked ("last migration from v" ++
      toString j.fromVersion ++ " failed: " ++ j.reason)) ∧
    (registry.run config s).writes = [] ∧ (registry.run config s).store = s
  /-- The store cannot be stamped. -/
  stamp : ∀ version, ∃ stamped, s.stamped? = some stamped ∧
    registry.stamp version s =
      .error (.blocked ("store is already stamped at version " ++ toString stamped))
  /-- The store is ready at no version. -/
  ready : ∀ target,
    s.ensureReady target = .error (.blocked ("last migration failed: " ++ j.reason))

/-- A store is latched: one failed journal keeps it shut, whatever is done to it later. -/
def Latched (registry : Registry) (s : Store) : Prop :=
  ∃ j, ∀ s', Later registry s s' → Shut registry j s'

/-- A failed journal is stored, and the store is not ahead of the registry. -/
structure Held (registry : Registry) (j : Journal) (s : Store) : Prop where
  /-- The journal is stored. -/
  journal : s.journal? = some (.readable j)
  /-- It says that the run has failed. -/
  failed : j.status = .failed
  /-- The store has a version, which is not ahead of the registry. -/
  stamped : ∃ version, s.stamped? = some version ∧ version ≤ registry.currentVersion

/-- Only the journal and the version hold a store. -/
theorem Held.congr (h : Held registry j s) (hjournal : s'.journal? = s.journal?)
    (hstamped : s'.stamped? = s.stamped?) : Held registry j s' := by
  obtain ⟨version, hs, hle⟩ := h.stamped
  exact ⟨hjournal.trans h.journal, h.failed, version, hstamped.trans hs, hle⟩

/-- The journal of a store that is held can be read. -/
theorem Held.readJournal (h : Held registry j s) : s.readJournal = .ok (some j) := by
  unfold Store.readJournal
  rw [h.journal]

/-- A store that is held refuses a run that is not told to try again. The version is looked at
first, and the journal before anything is done. -/
theorem Held.run_eq (h : Held registry j s) {config : RunConfig}
    (hretry : config.retryFailed = false) :
    ∃ version, registry.run config s =
      ⟨[.entered (.idle version), .advanced .failed],
        .error (.blocked ("last migration from v" ++ toString j.fromVersion ++ " failed: " ++
          j.reason)), s⟩ := by
  obtain ⟨version, hs, hle⟩ := h.stamped
  have hblocks : blocks config (some j) = some j := by
    have hfailed : j.isFailed = true := beq_iff_eq.2 h.failed
    unfold blocks
    rw [Option.filter_some, hfailed, hretry]
    rfl
  refine ⟨version, ?_⟩
  rw [run_eq_runFrom hs]
  unfold runFrom
  rw [if_neg (Nat.not_lt.2 hle), h.readJournal]
  dsimp only
  rw [hblocks]
  rfl

/-- A store that is held is shut. -/
theorem Held.shut (h : Held registry j s) : Shut registry j s := by
  refine ⟨h.journal, h.failed, fun config hretry => ?_, fun version => ?_, fun target => ?_⟩
  · obtain ⟨version, hrun⟩ := h.run_eq hretry
    rw [hrun]
    exact ⟨rfl, rfl, rfl⟩
  · obtain ⟨stamped, hs, -⟩ := h.stamped
    refine ⟨stamped, hs, ?_⟩
    unfold stamp
    rw [Store.readStamp_eq_some_iff.2 hs]
  · have hfailed : j.isFailed = true := beq_iff_eq.2 h.failed
    unfold Store.ensureReady
    rw [h.readJournal]
    dsimp only
    rw [if_pos hfailed]

/-- A store stays held by the same journal, whatever is done to it. -/
theorem Held.later (h : Held registry j s) (hlater : Later registry s s') :
    Held registry j s' := by
  induction hlater with
  | refl => exact h
  | @insert s₁ name r _ ih =>
    obtain ⟨_, _, hinsert⟩ := s₁.insert_eq name r
    rw [hinsert]
    exact ih.congr rfl rfl
  | setPreference name value _ ih => exact ih.congr rfl rfl
  | stamp version _ hstamp ih =>
    obtain ⟨_, -, hrefused⟩ := ih.shut.stamp version
    rw [hrefused] at hstamp
    cases hstamp
  | run config hretry _ ih =>
    obtain ⟨-, -, hstore⟩ := ih.shut.run config hretry
    rw [hstore]
    exact ih
  | reopen _ ih => exact ih.congr rfl rfl

/-- A run that fails at its work holds the store by its journal. It began at a version before the
current one, and no step leads beyond that. -/
theorem held_of_failed (hbuild : build baseline steps = .ok registry) {config : RunConfig}
    (h : (registry.run config s).Failed) : ∃ j, Held registry j (registry.run config s).store := by
  obtain ⟨e, he⟩ := h.2
  rcases registry.run_cases config s with
    ⟨hidle, -, -⟩ | ⟨-, -, hrun⟩ | ⟨version, hs, hlt, hrun⟩
  · exact absurd hidle h.not_idle
  · rw [hrun] at he
    cases he
  have hcloses : Closes registry config (registry.run config s) := by
    rw [hrun]
    exact (closes_migrate registry config version s).after _
  have hstops : Stops registry config.pass version s [] (registry.run config s) := by
    rw [hrun]
    exact (migrate_stops (Nat.le_of_lt hlt)).after _
  obtain ⟨j, hj, hfailed⟩ := hcloses.failure e he
  obtain ⟨target, reports, s', htarget, hpasses, hstore, -⟩ := hstops.steps
  have hstamped : s'.stamped? = some target := (hpasses.stamped hbuild hs).1
  refine ⟨j, hj, hfailed, target, ?_, htarget⟩
  rw [hstore]
  exact hstamped

/-- A store that is held is latched. -/
theorem Held.latched (h : Held registry j s) : Latched registry s :=
  ⟨j, fun _ hlater => (h.later hlater).shut⟩

/-- **A failure latches.** Once a run has failed at its work, the store stays shut by its journal
through every later use and every run that is not told to try again; and if a run that is told so
fails again, the store is latched again. -/
theorem latched_of_failed (hbuild : build baseline steps = .ok registry) {config : RunConfig}
    (h : (registry.run config s).Failed) :
    Latched registry (registry.run config s).store ∧
      ∀ s', Later registry (registry.run config s).store s' → ∀ again : RunConfig,
        again.retryFailed = true → (registry.run again s').Failed →
          Latched registry (registry.run again s').store := by
  have hlatched : ∀ config s, (registry.run config s).Failed →
      Latched registry (registry.run config s).store := by
    intro config s hfailed
    obtain ⟨j, hheld⟩ := held_of_failed hbuild hfailed
    exact hheld.latched
  exact ⟨hlatched config s h, fun s' _ again _ hagain => hlatched again s' hagain⟩

/-- A run finds no step from the version of a store and latches it. A preference is stored, and when
the run is tried again it fails again. -/
theorem latched_of_failed_gapped : ∃ registry s s', build (.empty 0) gapped = .ok registry ∧
    (registry.run .standard s).Failed ∧ Latched registry (registry.run .standard s).store ∧
    Later registry (registry.run .standard s).store s' ∧
    (registry.run { RunConfig.standard with retryFailed := true } s').Failed ∧
    Latched registry (registry.run { RunConfig.standard with retryFailed := true } s').store := by
  let again : RunConfig := { RunConfig.standard with retryFailed := true }
  let s : Store := { atFirst with version? := some (.readable 1) }
  obtain ⟨registry, hbuild, hcurrent, hmissing⟩ :
      ∃ registry, build (.empty 0) gapped = .ok registry ∧ registry.currentVersion = 3 ∧
        registry.stepFor? 1 = none := ⟨_, rfl, rfl, rfl⟩
  have hlt : 1 < registry.currentVersion := by
    rw [hcurrent]
    decide
  have hfirst : (registry.run .standard s).started = true ∧
      (registry.run .standard s).outcome = .error (.missingStep 1) ∧
      ∃ j, (registry.run .standard s).store = s.writeJournal j :=
    run_of_raises hbuild rfl hlt rfl rfl (.missing hmissing)
  obtain ⟨hstarted, houtcome, j, hstore⟩ := hfirst
  have hfailed : (registry.run .standard s).Failed := ⟨hstarted, _, houtcome⟩
  let s' := (registry.run .standard s).store.setPreference "theme" (.str "dark")
  have hlater : Later registry (registry.run .standard s).store s' :=
    .setPreference "theme" (.str "dark") .refl
  have hstamped : s'.stamped? = some 1 := by
    unfold s'
    rw [hstore]
    rfl
  have hread : s'.readJournal = .ok (some j) := by
    unfold s'
    rw [hstore]
    rfl
  have hfree : blocks again (some j) = none := blocks_eq_none fun _ _ _ => rfl
  obtain ⟨hstarted', houtcome', -⟩ :=
    run_of_raises hbuild hstamped hlt hread hfree (.missing hmissing)
  have hagain : (registry.run again s').Failed := ⟨hstarted', _, houtcome'⟩
  obtain ⟨hlatched, hretried⟩ := latched_of_failed hbuild hfailed
  exact ⟨registry, s, s', hbuild, hfailed, hlatched, hlater, hagain,
    hretried s' hlater again rfl hagain⟩

end Registry

end Strata
