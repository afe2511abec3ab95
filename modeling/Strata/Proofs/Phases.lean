import Strata.Proofs.Stepping

/-!
# Phases of a runner

The phase of a runner outlives its runs: each run sets it anew and then moves it on, and nothing
resets it in between. Wherever it is moved on the move is one that `Phase.canAdvance` allows, and a
phase that names a version, or calls the store current, agrees with the header of the store at that
moment. Both hold for every event of every run, whatever phase the runs before have ended in and
whatever was written in between (`Registry.lawful_of_session`); the steps of a run carry it from one
version to the next (`Registry.orderly_walk`).

At its end the phase tells how the run ended: finished if it succeeded, and failed if it did not
(`Registry.phase_of_run`). The exceptions are a journal and a version in the header that cannot be
read. A run that gets to read the one or the other ends on that error without a word about the
phase, and so stays idle (`Registry.exists_run_error_idle`), or in whatever phase it began in.
-/

namespace Strata

/-- What a phase of a run to a version says of the store. -/
def Phase.Agrees (phase : Phase) (target : Nat) (s : Store) : Prop :=
  match phase with
  | .idle version => s.stamped? = some version
  | .stepping version goal => s.stamped? = some version ∧ goal = target
  | .validating | .finished => s.stamped? = some target
  | .failed => True

/-- The phase that an event sets. -/
def Event.phase? : Event → Option Phase
  | .wrote _ => none
  | .entered p | .advanced p => some p

/-- The store after an event. -/
def Run.storeAfter (s : Store) : Event → Store
  | .wrote s' => s'
  | .entered _ | .advanced _ => s

/-- An event that happens in a phase and over a store is lawful if the phase that it moves on to may
follow, and the phase that it sets agrees with the store. -/
structure Event.Lawful (target : Nat) (phase : Phase) (s : Store) (event : Event) : Prop where
  /-- A phase is moved on to only from one that it may follow. -/
  allowed : ∀ p, event = .advanced p → phase.canAdvance p = true
  /-- A phase that is set agrees with the store. -/
  agrees : ∀ p, event.phase? = some p → p.Agrees target s

/-- Events one after the other, each of them lawful after those before it. -/
def Lawful (target : Nat) : Phase → Store → List Event → Prop
  | _, _, [] => True
  | phase, s, event :: rest =>
    event.Lawful target phase s ∧
      Lawful target (Run.phaseAfter phase event) (Run.storeAfter s event) rest

section Lawful

variable {target : Nat} {phase p : Phase} {s s' : Store}

/-- A write is always lawful. -/
theorem Event.lawful_wrote : Event.Lawful target phase s (.wrote s') := ⟨nofun, nofun⟩

/-- A phase that agrees with the store may be set whatever the phase before. -/
theorem Event.lawful_entered (h : p.Agrees target s) : Event.Lawful target phase s (.entered p) := by
  refine ⟨nofun, fun p' hp => ?_⟩
  cases hp
  exact h

/-- A phase that agrees with the store may be moved on to from one that it may follow. -/
theorem Event.lawful_advanced (hallowed : phase.canAdvance p = true) (h : p.Agrees target s) :
    Event.Lawful target phase s (.advanced p) := by
  refine ⟨fun p' hp => ?_, fun p' hp => ?_⟩
  · cases hp
    exact hallowed
  · cases hp
    exact h

/-- Events are lawful if the first of them are, and the others after these. -/
theorem lawful_append {first more : List Event} :
    Lawful target phase s (first ++ more) ↔ Lawful target phase s first ∧
      Lawful target (first.foldl Run.phaseAfter phase) (first.foldl Run.storeAfter s) more := by
  induction first generalizing phase s with
  | nil => simp [Lawful]
  | cons event rest ih =>
    rw [List.cons_append, List.foldl_cons, List.foldl_cons, Lawful, Lawful, ih, and_assoc]

end Lawful

namespace Run

/-- A run is orderly after a phase and a store if its events are lawful there and lead to the store
that it leaves. -/
structure Orderly (target : Nat) (phase : Phase) (s : Store) (r : Run) : Prop where
  /-- The events are lawful. -/
  lawful : Lawful target phase s r.events
  /-- The last write is the store that the run leaves. -/
  store : r.events.foldl storeAfter s = r.store

/-- A run that goes on from lawful events is orderly before them. -/
theorem Orderly.after {target : Nat} {phase : Phase} {s : Store} {events : List Event} {r : Run}
    (hevents : Lawful target phase s events)
    (h : Orderly target (events.foldl phaseAfter phase) (events.foldl storeAfter s) r) :
    Orderly target phase s (r.after events) := by
  refine ⟨lawful_append.2 ⟨hevents, h.lawful⟩, ?_⟩
  unfold Run.after
  rw [List.foldl_append]
  exact h.store

/-- The phase that says how a run ended. -/
def verdict (r : Run) : Phase :=
  match r.outcome with
  | .ok _ => .finished
  | .error _ => .failed

/-- The phase at the end of a run does not depend on what happened before it, apart from where it
began. -/
theorem phase_after (r : Run) (events : List Event) (start : Phase) :
    (r.after events).phase start = r.phase (events.foldl phaseAfter start) :=
  List.foldl_append

end Run

namespace Registry

variable {registry : Registry} {config : RunConfig} {version : Nat} {s : Store}

/-! ## Moves of a run -/

section Built

variable {baseline : Schema} {steps : List Step}

/-- A run that stops on an error may do so in every phase that is not an end. -/
theorem orderly_stop {target : Nat} {phase : Phase} (hphase : phase.isTerminal = false)
    (s₀ : Store) (journal : Journal) (e : MigrationError) (s : Store) :
    (stop journal e s).Orderly target phase s₀ := by
  have hallowed : phase.canAdvance .failed = true := by
    cases phase with
    | finished | failed => cases hphase
    | idle | stepping | validating => rfl
  exact ⟨⟨Event.lawful_wrote, Event.lawful_advanced hallowed trivial, trivial⟩, rfl⟩

/-- A run concludes at the version that it goes to. -/
theorem orderly_conclude {journal : Journal} {reports : List StepReport}
    (hs : s.stamped? = some registry.currentVersion) :
    (registry.conclude config journal reports s).Orderly registry.currentVersion
      (.stepping registry.currentVersion registry.currentVersion) s := by
  have hvalidating : Event.Lawful registry.currentVersion
      (.stepping registry.currentVersion registry.currentVersion) s (.advanced .validating) :=
    Event.lawful_advanced rfl hs
  unfold conclude
  split
  · exact (orderly_stop rfl s journal _ s).after ⟨hvalidating, trivial⟩
  · exact ⟨⟨hvalidating, Event.lawful_wrote, Event.lawful_advanced rfl hs, trivial⟩, rfl⟩

/-- The steps that a run takes move its phase on along with the version of the store. -/
theorem orderly_walk (hbuild : build baseline steps = .ok registry) {count : Nat}
    {journal : Journal} {reports : List StepReport} (hs : s.stamped? = some version)
    (hcount : version + count = registry.currentVersion) :
    (registry.walk config count version journal reports s).Orderly registry.currentVersion
      (.stepping version registry.currentVersion) s := by
  induction count generalizing version journal reports s with
  | zero =>
    obtain rfl : version = registry.currentVersion := hcount
    exact orderly_conclude hs
  | succ count ih =>
    unfold walk
    rcases stepFrom_cases registry config.pass version journal s with
      ⟨report, s₁, j, hcommits, hstep, -⟩ | ⟨e, rows, -, hstep⟩
    · rw [hstep]
      -- The commit stamps the version that the phase moves on to.
      have hs₁ : (s₁.writeJournal j).stamped? = some (version + 1) := (hcommits.stamped hbuild).1
      have hallowed : (Phase.stepping version registry.currentVersion).canAdvance
          (.stepping (version + 1) registry.currentVersion) = true := by
        simp [Phase.canAdvance]
      exact (ih hs₁ (by omega)).after
        ⟨Event.lawful_wrote, Event.lawful_advanced hallowed ⟨hs₁, rfl⟩, trivial⟩
    · rw [hstep]
      exact orderly_stop rfl s _ e _

/-- A run over an older store begins with its version. -/
theorem orderly_migrate (hbuild : build baseline steps = .ok registry) (config : RunConfig)
    (hs : s.stamped? = some version) (hle : version ≤ registry.currentVersion) :
    (registry.migrate config version s).Orderly registry.currentVersion (.idle version) s := by
  have hs₁ : (s.writeJournal (.begin version registry.currentVersion)).stamped? = some version := hs
  exact (orderly_walk hbuild hs₁ (Nat.add_sub_cancel' hle)).after
    ⟨Event.lawful_wrote, Event.lawful_advanced rfl ⟨hs₁, rfl⟩, trivial⟩

/-- A run over a store with a version moves on from there. -/
theorem orderly_runFrom (hbuild : build baseline steps = .ok registry) (config : RunConfig)
    (hs : s.stamped? = some version) :
    (registry.runFrom config version s).Orderly registry.currentVersion (.idle version) s := by
  have hfailed : Event.Lawful registry.currentVersion (.idle version) s (.advanced .failed) :=
    Event.lawful_advanced rfl trivial
  unfold runFrom
  split
  · exact ⟨⟨hfailed, trivial⟩, rfl⟩
  next hahead =>
  split
  · exact ⟨trivial, rfl⟩
  split
  · exact ⟨⟨hfailed, trivial⟩, rfl⟩
  split
  · next hcurrent => exact ⟨⟨Event.lawful_advanced rfl (hcurrent ▸ hs), trivial⟩, rfl⟩
  · exact orderly_migrate hbuild config hs (Nat.le_of_not_lt hahead)

/-- Every run is orderly, whatever phase it begins in. -/
theorem orderly_run (hbuild : build baseline steps = .ok registry) (config : RunConfig)
    (phase : Phase) (s : Store) :
    (registry.run config s).Orderly registry.currentVersion phase s := by
  unfold run
  split
  · exact ⟨trivial, rfl⟩
  · split
    · exact ⟨⟨Event.lawful_entered trivial, trivial⟩, rfl⟩
    · exact ⟨⟨Event.lawful_wrote, Event.lawful_entered rfl, trivial⟩, rfl⟩
  · next version hstamp =>
    have hs : s.stamped? = some version := Store.stamped?_of_readStamp hstamp
    exact (orderly_runFrom hbuild config hs).after ⟨Event.lawful_entered hs, trivial⟩

/-! ## The runs of one runner -/

/-- What happens to a store while one runner works on it: the runner is made, runs any number of
times, and between its runs the store may be written in any way. -/
inductive Session (registry : Registry) (config : RunConfig) (s : Store) :
    List Event → Store → Prop
  /-- The runner is made. -/
  | new : Session registry config s [] s
  /-- The runner runs. -/
  | run {events : List Event} {s' : Store} (h : Session registry config s events s') :
      Session registry config s (events ++ (registry.run config s').events)
        (registry.run config s').store
  /-- The store is written by something else. -/
  | write {events : List Event} {s' : Store} (h : Session registry config s events s')
      (w : Store) : Session registry config s (events ++ [.wrote w]) w

/-- All that happens is lawful, and the last write is what the store holds. -/
theorem Session.lawful (hbuild : build baseline steps = .ok registry) {events : List Event}
    {s' : Store} (h : Session registry config s events s') :
    Lawful registry.currentVersion registry.startPhase s events ∧
      events.foldl Run.storeAfter s = s' := by
  induction h with
  | new => exact ⟨trivial, rfl⟩
  | @run events s' h ih =>
    obtain ⟨hlawful, rfl⟩ := ih
    -- The run begins in the phase that the runs before have left.
    have horderly := orderly_run hbuild config (events.foldl Run.phaseAfter registry.startPhase)
      (events.foldl Run.storeAfter s)
    exact ⟨lawful_append.2 ⟨hlawful, horderly.lawful⟩, List.foldl_append.trans horderly.store⟩
  | write h w ih =>
    exact ⟨lawful_append.2 ⟨ih.1, Event.lawful_wrote, trivial⟩, List.foldl_append⟩

/-- **Phases are set lawfully.** Take any event while one runner works on a store, in however many
runs. If it moves the phase on, the phase before allows that. If it sets a phase of taking steps,
the store is stamped at the version of the phase and the target is the current version. If it sets
the phase of a finished run, the store is stamped at the current version. -/
theorem lawful_of_session (hbuild : build baseline steps = .ok registry)
    {before later : List Event} {event : Event} {s' : Store}
    (h : Session registry config s (before ++ event :: later) s') :
    (∀ p, event = .advanced p →
      (before.foldl Run.phaseAfter registry.startPhase).canAdvance p = true) ∧
    (∀ version target, event.phase? = some (.stepping version target) →
      (before.foldl Run.storeAfter s).stamped? = some version ∧
        target = registry.currentVersion) ∧
    (event.phase? = some .finished →
      (before.foldl Run.storeAfter s).stamped? = some registry.currentVersion) := by
  obtain ⟨hallowed, hagrees⟩ := (lawful_append.1 (h.lawful hbuild).1).2.1
  exact ⟨hallowed, fun version target hp => hagrees _ hp, fun hp => hagrees _ hp⟩

/-- A run over a history with a gap takes the step before the gap, and stops at the gap. -/
theorem exists_run_gapped :
    ∃ registry s₁ s₂, build (.empty 0) gapped = .ok registry ∧ registry.currentVersion = 3 ∧
      registry.schemaAt? 0 = some (.empty 0) ∧ registry.run .standard atFirst =
        ⟨[.entered (.idle 0), .wrote (atFirst.writeJournal (.begin 0 3)),
          .advanced (.stepping 0 3), .wrote s₁, .advanced (.stepping 1 3), .wrote s₂,
          .advanced .failed], .error (.missingStep 1), s₂⟩ := by
  obtain ⟨registry, report, s₁, hbuild, hcurrent, hschema, hmissing, hcommits⟩ :
      ∃ registry report s₁, build (.empty 0) gapped = .ok registry ∧ registry.currentVersion = 3 ∧
        registry.schemaAt? 0 = some (.empty 0) ∧ registry.stepFor? 1 = none ∧
        Commits registry .standard 0 atFirst report s₁ :=
    ⟨_, _, _, rfl, rfl, rfl, rfl, .step rfl rfl rfl rfl rfl⟩
  have hcommits' : Commits registry RunConfig.standard.pass 0
      (atFirst.writeJournal (.begin 0 3)) report
      { s₁ with journal? := some (.readable (.begin 0 3)) } := hcommits.withJournal _
  have hmigrate : registry.migrate .standard 0 atFirst =
      (registry.walk .standard 3 0 (.begin 0 3) [] (atFirst.writeJournal (.begin 0 3))).after
        [.wrote (atFirst.writeJournal (.begin 0 3)), .advanced (.stepping 0 3)] := by
    unfold migrate
    rw [hcurrent]
  have hrun : registry.run .standard atFirst =
      (registry.migrate .standard 0 atFirst).after [.entered (.idle 0)] :=
    run_eq_migrate rfl (by omega) rfl rfl
  rw [hmigrate, walk_of_commits hbuild hcommits', walk_of_raises hbuild (.missing hmissing),
    hcurrent] at hrun
  exact ⟨registry, _, _, hbuild, hcurrent, hschema, hrun⟩

/-- A runner takes the step before a gap, fails at the gap, and runs once more. -/
theorem lawful_of_session_gapped :
    ∃ registry before later s', build (.empty 0) gapped = .ok registry ∧
      Session registry .standard atFirst (before ++ .advanced (.stepping 1 3) :: later) s' ∧
      (before.foldl Run.phaseAfter registry.startPhase).canAdvance (.stepping 1 3) = true ∧
      (before.foldl Run.storeAfter atFirst).stamped? = some 1 ∧ registry.currentVersion = 3 := by
  obtain ⟨registry, s₁, s₂, hbuild, hcurrent, -, hrun⟩ := exists_run_gapped
  have hnew : Session registry .standard atFirst [] atFirst := .new
  have hsession := hnew.run.run
  rw [List.nil_append, hrun] at hsession
  -- The step is the fifth event of the first run.
  have hsplit : Session registry .standard atFirst
      ([.entered (.idle 0), .wrote (atFirst.writeJournal (.begin 0 3)), .advanced (.stepping 0 3),
        .wrote s₁] ++ .advanced (.stepping 1 3) :: _) _ := hsession
  obtain ⟨hallowed, hstepping, -⟩ := lawful_of_session hbuild hsplit
  obtain ⟨hstamped, -⟩ := hstepping 1 3 rfl
  exact ⟨registry, _, _, _, hbuild, hsplit, hallowed _ rfl, hstamped, hcurrent⟩

end Built

/-! ## The end of a run -/

/-- A run concludes in the phase that says how. -/
theorem phase_conclude (journal : Journal) (reports : List StepReport) (s : Store)
    (start : Phase) :
    (registry.conclude config journal reports s).phase start =
      (registry.conclude config journal reports s).verdict := by
  unfold conclude
  split <;> rfl

/-- A run that has begun to take steps ends in the phase that says how. -/
theorem phase_walk (count version : Nat) (journal : Journal) (reports : List StepReport)
    (s : Store) (start : Phase) :
    (registry.walk config count version journal reports s).phase start =
      (registry.walk config count version journal reports s).verdict := by
  induction count generalizing version journal reports s start with
  | zero => exact phase_conclude journal reports s start
  | succ count ih =>
    unfold walk
    split
    · rfl
    · rw [Run.phase_after]
      exact ih _ _ _ _ _

/-- A run is about to read a journal that cannot be read: the store has a version that is not beyond
the current one. -/
def Illegible (registry : Registry) (s : Store) (version : Nat) : Prop :=
  s.stamped? = some version ∧ version ≤ registry.currentVersion ∧
    ∃ bytes, s.journal? = some (.corrupted bytes)

/-- A run over a store whose journal cannot be read ends there. -/
theorem Illegible.run_eq (h : registry.Illegible s version) (config : RunConfig) :
    registry.run config s = ⟨[.entered (.idle version)], .error .journalCorrupted, s⟩ := by
  obtain ⟨hs, hle, hjournal⟩ := h
  have hread : s.readJournal = .error .journalCorrupted :=
    Store.readJournal_eq_error_iff.2 ⟨rfl, hjournal⟩
  rw [run_eq_runFrom hs]
  unfold runFrom
  rw [if_neg (Nat.not_lt.2 hle), hread]
  rfl

/-- A run over a store whose version cannot be read ends there. -/
theorem run_of_illegibleStamp (h : s.IllegibleStamp) (registry : Registry) (config : RunConfig) :
    registry.run config s =
      ⟨[], .error (.storage (.invalidData "stamped version is not 8 bytes")), s⟩ := by
  unfold run
  rw [Store.readStamp_eq_error_iff.2 ⟨rfl, h⟩]

/-- Any other run ends in the phase that says how. -/
theorem phase_eq_verdict (hstamp : ¬s.IllegibleStamp)
    (h : ∀ version, ¬registry.Illegible s version) (config : RunConfig) (start : Phase) :
    (registry.run config s).phase start = (registry.run config s).verdict := by
  unfold run
  split
  · next e hread => exact absurd (Store.readStamp_eq_error_iff.1 hread).2 hstamp
  · split <;> rfl
  next version hread =>
  have hs : s.stamped? = some version := Store.stamped?_of_readStamp hread
  rw [Run.phase_after]
  unfold runFrom
  split
  · rfl
  next hahead =>
  split
  · next e hread =>
    have hjournal := (Store.readJournal_eq_error_iff.1 hread).2
    exact absurd ⟨hs, Nat.le_of_not_lt hahead, hjournal⟩ (h version)
  split
  · rfl
  split
  · rfl
  · unfold migrate
    rw [Run.phase_after]
    exact phase_walk _ _ _ _ _ _

/-- **How a run ends.** In whatever phase a run begins, a run that succeeds ends finished, and one
that does not ends failed, unless it was about to read a journal or a version in the header that
cannot be read. Such a run changes nothing and ends on that error. It stays idle at the version of
the store if it has read the version, and else in the phase that it began in. -/
theorem phase_of_run (registry : Registry) (config : RunConfig) (s : Store) (start : Phase) :
    (∀ report, (registry.run config s).outcome = .ok report →
      (registry.run config s).phase start = .finished) ∧
    (∀ e, (registry.run config s).outcome = .error e → ¬s.IllegibleStamp →
      (∀ version, ¬registry.Illegible s version) →
      (registry.run config s).phase start = .failed) ∧
    (∀ version, registry.Illegible s version →
      (registry.run config s).outcome = .error .journalCorrupted ∧
      (registry.run config s).phase start = .idle version ∧
      (registry.run config s).writes = [] ∧ (registry.run config s).store = s) ∧
    (s.IllegibleStamp →
      (registry.run config s).outcome =
        .error (.storage (.invalidData "stamped version is not 8 bytes")) ∧
      (registry.run config s).phase start = start ∧
      (registry.run config s).writes = [] ∧ (registry.run config s).store = s) := by
  refine ⟨fun report hok => ?_, fun e herror hstamp hlegible => ?_, fun version hillegible => ?_,
    fun hillegible => ?_⟩
  · have hstamp : ¬s.IllegibleStamp := by
      intro hillegible
      rw [run_of_illegibleStamp hillegible registry config] at hok
      cases hok
    have hlegible : ∀ version, ¬registry.Illegible s version := by
      intro version hillegible
      rw [hillegible.run_eq config] at hok
      cases hok
    rw [phase_eq_verdict hstamp hlegible config start, Run.verdict, hok]
  · rw [phase_eq_verdict hstamp hlegible config start, Run.verdict, herror]
  · rw [hillegible.run_eq config]
    exact ⟨rfl, rfl, rfl, rfl⟩
  · rw [run_of_illegibleStamp hillegible registry config]
    exact ⟨rfl, rfl, rfl, rfl⟩

/-- A run that stops at a gap ends failed. Once the byte `ff` stands where the version was, a run
that begins finished ends finished, although it fails. -/
theorem phase_of_run_gapped :
    ∃ registry e garbled, build (.empty 0) gapped = .ok registry ∧ ¬atFirst.IllegibleStamp ∧
      (∀ version, ¬registry.Illegible atFirst version) ∧
      (registry.run .standard atFirst).outcome = .error e ∧
      (registry.run .standard atFirst).phase registry.startPhase = .failed ∧
      garbled = { atFirst with version? := some (.corrupted [0xff] (by decide)) } ∧
      garbled.IllegibleStamp ∧ (registry.run .standard garbled).phase .finished = .finished := by
  obtain ⟨registry, s₁, s₂, hbuild, -, -, hrun⟩ := exists_run_gapped
  have hstamp : ¬atFirst.IllegibleStamp := nofun
  have hlegible : ∀ version, ¬registry.Illegible atFirst version := by
    rintro version ⟨-, -, bytes, hbytes⟩
    cases hbytes
  have houtcome : (registry.run .standard atFirst).outcome = .error (.missingStep 1) :=
    congrArg Run.outcome hrun
  let garbled : Store := { atFirst with version? := some (.corrupted [0xff] (by decide)) }
  have hgarbled : garbled.IllegibleStamp := ⟨_, _, rfl⟩
  obtain ⟨-, hfailed, -, -⟩ := phase_of_run registry .standard atFirst registry.startPhase
  obtain ⟨-, -, -, hkept⟩ := phase_of_run registry .standard garbled .finished
  obtain ⟨-, hfinished, -⟩ := hkept hgarbled
  exact ⟨registry, _, garbled, hbuild, hstamp, hlegible, houtcome,
    hfailed _ houtcome hstamp hlegible, rfl, hgarbled, hfinished⟩

/-- A run over a stamped store whose journal was overwritten ends on an error, and its phase is not
that of a failed run. -/
theorem exists_run_error_idle :
    ∃ registry s e, build (.empty 0) gapped = .ok registry ∧
      s = atFirst.commit (Transaction.empty.setJournal (.corrupted [0xff])) ∧
      (registry.run .standard s).outcome = .error e ∧
      (registry.run .standard s).phase registry.startPhase ≠ .failed ∧
      ((registry.run .standard s).phase registry.startPhase).isTerminal = false :=
  ⟨_, _, .journalCorrupted, rfl, rfl, rfl, nofun, rfl⟩

end Registry

end Strata
