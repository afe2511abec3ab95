import Strata.Proofs.Reachable

/-!
# The journal tells how far its run got

The journal is written on its own when a run begins and when it ends, and along with every step.
After each of these writes it tells of the store that it is stored with (`Journal.Tells`): the
entries that are complete come first and lead to the version of the header, and the entry after them
may tell of a failure. While steps are being taken a journal is `Journal.UnderWay`: completed
entries, then entries as they were begun. That is the invariant of a run; it is kept by a step, and
each way of ending a run makes it a journal that tells. `Registry.journal_of_reachable` puts this
together for every store that is reached.
-/

namespace Strata

namespace Journal

/-- A journal tells of a store at a version: it has one entry for each version that the run passes,
in order, and the complete ones come first and lead to the version. The others are pending, except
that in a failed journal the first of them may have failed. Only a run that has reached its last
version is complete. -/
structure Tells (j : Journal) (version : Nat) : Prop where
  /-- There is one entry for each version that the run passes, in order. -/
  sources : j.steps.map (·.source) = List.range' j.fromVersion (j.toVersion - j.fromVersion)
  /-- The completed steps lead to the version. -/
  reached : j.fromVersion + j.completedSteps = version
  /-- The completed steps come first. -/
  completed : ∀ i p, j.steps[i]? = some p → i < j.completedSteps → p.status = .complete
  /-- The other steps are pending, apart from the first if the run has failed. -/
  others : ∀ i p, j.steps[i]? = some p → j.completedSteps ≤ i →
    p.status = .pending ∨ j.status = .failed ∧ i = j.completedSteps ∧ p.status = .failed
  /-- A complete run has taken all of its steps and reached its last version. -/
  complete : j.status = .complete → (∀ p ∈ j.steps, p.status = .complete) ∧ j.toVersion = version

/-- The journal of a run that has taken the steps up to a version and goes on: entries that are
complete, and then entries as they were begun. -/
structure UnderWay (j : Journal) (version : Nat) : Prop where
  /-- The run started at this version or before. -/
  from_le : j.fromVersion ≤ version
  /-- The run goes to this version or beyond. -/
  le_to : version ≤ j.toVersion
  /-- Nothing has ended the run. -/
  running : j.status = .running
  /-- The entries of the steps taken, and those of the others. -/
  steps : ∃ done, j.steps = done ++ (List.range' version (j.toVersion - version)).map .pending ∧
    done.map (·.source) = List.range' j.fromVersion (version - j.fromVersion) ∧
    ∀ p ∈ done, p.status = .complete

variable {j : Journal} {version : Nat}

/-- A journal whose entries split at a version into completed ones and others that are not tells of
a store at that version. -/
theorem tells_of_split {done rest : List Progress} (hsteps : j.steps = done ++ rest)
    (hdone : done.map (·.source) = List.range' j.fromVersion (version - j.fromVersion))
    (hcomplete : ∀ p ∈ done, p.status = .complete)
    (hrest : rest.map (·.source) = List.range' version (j.toVersion - version))
    (hothers : ∀ i p, rest[i]? = some p →
      p.status = .pending ∨ j.status = .failed ∧ i = 0 ∧ p.status = .failed)
    (hfrom : j.fromVersion ≤ version) (hto : version ≤ j.toVersion)
    (hend : j.status = .complete → version = j.toVersion) : j.Tells version := by
  have hlength : done.length = version - j.fromVersion := by
    rw [← List.length_map (·.source), hdone, List.length_range']
  have hcount : j.completedSteps = done.length := by
    have hfirst : done.countP (·.status == .complete) = done.length :=
      List.countP_eq_length.2 fun p hp => by rw [hcomplete p hp]; rfl
    have hlast : rest.countP (·.status == .complete) = 0 := by
      refine List.countP_eq_zero.2 fun p hp => ?_
      obtain ⟨i, hi⟩ := List.getElem?_of_mem hp
      rcases hothers i p hi with hstatus | ⟨-, -, hstatus⟩
      · rw [hstatus]
        decide
      · rw [hstatus]
        decide
    rw [completedSteps, hsteps, List.countP_append, hfirst, hlast, Nat.add_zero]
  refine ⟨?_, by omega, fun i p hp hi => ?_, fun i p hp hi => ?_, fun hj => ⟨fun p hp => ?_, ?_⟩⟩
  · have hsplit : j.toVersion - j.fromVersion =
        (version - j.fromVersion) + (j.toVersion - version) := by omega
    rw [hsteps, List.map_append, hdone, hrest, hsplit, ← List.range'_append_1,
      Nat.add_sub_cancel' hfrom]
  · rw [hsteps, List.getElem?_append_left (by omega)] at hp
    exact hcomplete p (List.mem_of_getElem? hp)
  · rw [hsteps, List.getElem?_append_right (by omega)] at hp
    rcases hothers _ p hp with hstatus | ⟨hfailed, hfirst, hstatus⟩
    · exact .inl hstatus
    · exact .inr ⟨hfailed, by omega, hstatus⟩
  · -- Nothing is left at the last version.
    have hnone : rest = [] := by
      rw [hend hj, Nat.sub_self] at hrest
      exact List.map_eq_nil_iff.1 hrest
    rw [hsteps, hnone, List.append_nil] at hp
    exact hcomplete p hp
  · exact (hend hj).symm

/-- The sources of entries that were begun for some versions. -/
theorem map_source_pending (versions : List Nat) :
    (versions.map Progress.pending).map (·.source) = versions := by
  rw [List.map_map]
  exact List.map_id _

/-- An entry that was begun is pending. -/
theorem status_of_getElem?_pending {versions : List Nat} {i : Nat} {p : Progress}
    (h : (versions.map Progress.pending)[i]? = some p) : p.status = .pending := by
  obtain ⟨version, -, rfl⟩ := List.mem_map.1 (List.mem_of_getElem? h)
  rfl

/-- The journal of a run that starts. -/
theorem underWay_begin {target : Nat} (h : version ≤ target) :
    (begin version target).UnderWay version := by
  refine ⟨Nat.le_refl _, h, rfl, [], rfl, ?_, fun _ hp => nomatch hp⟩
  change [] = List.range' version (version - version)
  rw [Nat.sub_self]
  rfl

/-- Changing the entry of the next step leaves all others as they are. -/
theorem UnderWay.updateStep (h : j.UnderWay version) (hlt : version < j.toVersion)
    (change : Progress → Progress) :
    ∃ done, (j.updateStep version change).steps = done ++ change (.pending version) ::
        (List.range' (version + 1) (j.toVersion - (version + 1))).map .pending ∧
      done.map (·.source) = List.range' j.fromVersion (version - j.fromVersion) ∧
      ∀ p ∈ done, p.status = .complete := by
  obtain ⟨done, hsteps, hdone, hcomplete⟩ := h.steps
  have hnext : j.toVersion - version = j.toVersion - (version + 1) + 1 := by omega
  -- The entries before are for smaller versions, and those after for greater ones.
  have hbefore : done.map (fun p => if p.source = version then change p else p) = done := by
    have hsame : ∀ p ∈ done, (if p.source = version then change p else p) = p := by
      intro p hp
      have hsource : p.source ∈ List.range' j.fromVersion (version - j.fromVersion) :=
        hdone ▸ List.mem_map_of_mem hp
      have hfrom := h.from_le
      have hlt' := (List.mem_range'_1.1 hsource).2
      exact if_neg (by omega)
    rw [List.map_congr_left hsame, List.map_id']
  have hafter : (List.range' (version + 1) (j.toVersion - (version + 1))).map
      ((fun p => if p.source = version then change p else p) ∘ Progress.pending) =
      (List.range' (version + 1) (j.toVersion - (version + 1))).map .pending := by
    refine List.map_congr_left fun v hv => if_neg ?_
    have hle := (List.mem_range'_1.1 hv).1
    show v ≠ version
    omega
  refine ⟨done, ?_, hdone, hcomplete⟩
  calc (j.updateStep version change).steps
      = j.steps.map fun p => if p.source = version then change p else p := rfl
    _ = done ++ (if version = version then change (.pending version) else .pending version) ::
          (List.range' (version + 1) (j.toVersion - (version + 1))).map .pending := by
        rw [hsteps, hnext, List.range'_succ, List.map_cons, List.map_append, List.map_cons,
          List.map_map, hbefore, hafter]
        rfl
    _ = _ := by rw [if_pos rfl]

/-- Once its next step is committed a run is under way to the version after it. -/
theorem UnderWay.completeStep (h : j.UnderWay version) (hlt : version < j.toVersion)
    (written fallbacks : Nat) :
    (j.completeStep version written fallbacks).UnderWay (version + 1) := by
  obtain ⟨done, hsteps, hdone, hcomplete⟩ :=
    h.updateStep hlt (·.complete written fallbacks)
  have hfrom := h.from_le
  have hnext : version + 1 - j.fromVersion = version - j.fromVersion + 1 := by omega
  refine ⟨Nat.le_succ_of_le hfrom, hlt, h.running,
    done ++ [(Progress.pending version).complete written fallbacks], ?_, ?_, fun p hp => ?_⟩
  · rw [List.append_assoc]
    exact hsteps
  · change _ = List.range' j.fromVersion (version + 1 - j.fromVersion)
    rw [List.map_append, hdone, hnext, List.range'_concat, Nat.one_mul, Nat.add_sub_cancel' hfrom]
    rfl
  · rcases List.mem_append.1 hp with hp | hp
    · exact hcomplete p hp
    · cases List.mem_singleton.1 hp
      rfl

/-- The journal of a run under way still tells where it is once something has ended the run before
its next step: an error or, at its last version, success. -/
theorem UnderWay.tells_ended (h : j.UnderWay version) (status : RunStatus) (ended : Bool)
    (error? : Option String) (hend : status = .complete → version = j.toVersion) :
    Tells { j with status, ended, error? } version := by
  obtain ⟨done, hsteps, hdone, hcomplete⟩ := h.steps
  have hothers : ∀ i p,
      ((List.range' version (j.toVersion - version)).map Progress.pending)[i]? = some p →
      p.status = .pending ∨ status = .failed ∧ i = 0 ∧ p.status = .failed :=
    fun i p hp => .inl (status_of_getElem?_pending hp)
  exact tells_of_split (j := { j with status, ended, error? }) hsteps hdone hcomplete
    (map_source_pending _) hothers h.from_le h.le_to hend

/-- The journal of a run under way tells where it is. -/
theorem UnderWay.tells (h : j.UnderWay version) : j.Tells version := by
  refine h.tells_ended j.status j.ended j.error? fun hcomplete => ?_
  rw [h.running] at hcomplete
  cases hcomplete

/-- The journal of a run whose next step failed tells where it stopped. -/
theorem UnderWay.tells_failStep (h : j.UnderWay version) (hlt : version < j.toVersion)
    (message error : String) : ((j.failStep version message).fail error).Tells version := by
  obtain ⟨done, hsteps, hdone, hcomplete⟩ := h.updateStep hlt (·.fail message)
  have hnext : j.toVersion - version = j.toVersion - (version + 1) + 1 := by omega
  refine tells_of_split (j := (j.failStep version message).fail error) hsteps hdone hcomplete ?_
    (fun i p hp => ?_) h.from_le h.le_to (fun h => nomatch h)
  · change _ = List.range' version (j.toVersion - version)
    rw [List.map_cons, map_source_pending, hnext, List.range'_succ]
    rfl
  · cases i with
    | zero =>
      cases hp
      exact .inr ⟨rfl, rfl, rfl⟩
    | succ i => exact .inl (status_of_getElem?_pending hp)

end Journal

/-- The journal of a store, if it has one, tells of the store. -/
def Store.Told (s : Store) : Prop :=
  ∀ entry, s.journal? = some entry →
    ∃ j version, entry = .readable j ∧ s.stamped? = some version ∧ j.Tells version

/-- A store with a version is told of by the journal that is written to it. -/
theorem Store.told_writeJournal {s : Store} {version : Nat} {j : Journal}
    (hs : s.stamped? = some version) (hj : j.Tells version) : (s.writeJournal j).Told := by
  intro entry hentry
  cases hentry
  exact ⟨j, version, rfl, hs, hj⟩

namespace Registry

/-- A run leaves stores whose journals tell of them, after each of its writes and at its end. -/
structure Tracks (r : Run) : Prop where
  /-- The store after each write is told of. -/
  writes : ∀ w, Event.wrote w ∈ r.events → w.Told
  /-- The store at the end is told of. -/
  store : r.store.Told

/-- A run that did something before that is told of as well. -/
theorem Tracks.after {r : Run} (h : Tracks r) {events : List Event}
    (hevents : ∀ w, Event.wrote w ∈ events → w.Told) : Tracks (r.after events) := by
  refine ⟨fun w hw => ?_, h.store⟩
  rcases List.mem_append.1 hw with hw | hw
  · exact hevents w hw
  · exact h.writes w hw

variable {baseline : Schema} {steps : List Step} {registry : Registry} {version : Nat}
  {s : Store}

/-- A run that stops on an error is told of if its last journal tells of the store. -/
theorem tracks_stop {journal : Journal} {e : MigrationError} (hs : s.stamped? = some version)
    (hj : (journal.fail e.message).Tells version) : Tracks (stop journal e s) := by
  have htold := Store.told_writeJournal hs hj
  refine ⟨fun w hw => ?_, htold⟩
  simp only [stop, List.mem_cons, Event.wrote.injEq, reduceCtorEq, List.not_mem_nil,
    or_false] at hw
  exact hw ▸ htold

/-- The conclusion of a run closes its journal at the version that it goes to. -/
theorem tracks_conclude {config : RunConfig} {journal : Journal} {reports : List StepReport}
    (hs : s.stamped? = some version) (hj : journal.UnderWay version)
    (hend : version = journal.toVersion) :
    Tracks (registry.conclude config journal reports s) := by
  unfold conclude
  split
  · next e _ =>
    have hfail : (journal.fail e.message).Tells version := hj.tells_ended .failed true _ nofun
    exact (tracks_stop hs hfail).after fun w hw => (by simp at hw)
  · have htold : (s.writeJournal journal.complete).Told :=
      Store.told_writeJournal hs (hj.tells_ended .complete true _ fun _ => hend)
    refine ⟨fun w hw => ?_, htold⟩
    simp only [List.mem_cons, reduceCtorEq, Event.wrote.injEq, List.not_mem_nil, or_false,
      false_or] at hw
    exact hw ▸ htold

/-- The steps that a run takes move its journal on with the version of the store. -/
theorem tracks_walk (hbuild : build baseline steps = .ok registry) {config : RunConfig}
    {count : Nat} {journal : Journal} {reports : List StepReport}
    (hs : s.stamped? = some version) (hj : journal.UnderWay version)
    (hcount : version + count = journal.toVersion) :
    Tracks (registry.walk config count version journal reports s) := by
  induction count generalizing version journal reports s with
  | zero => exact tracks_conclude hs hj hcount
  | succ count ih =>
    have hlt : version < journal.toVersion := by omega
    rcases registry.commits_or_raises config.pass version s with
      ⟨report, s₁, hcommits⟩ | ⟨e, rows, hraises⟩
    · rw [walk_of_commits hbuild hcommits]
      -- The journal that is committed with the step tells of the store that the step leaves.
      have hj₁ := hj.completeStep hlt report.written report.fallbacks
      have hs₁ : (s₁.writeJournal
          (journal.completeStep version report.written report.fallbacks)).stamped? =
            some (version + 1) := (hcommits.stamped hbuild).1
      have hcount₁ : version + 1 + count = journal.toVersion := by omega
      have htold := Store.told_writeJournal hs₁ hj₁.tells
      refine (ih hs₁ hj₁ hcount₁).after fun w hw => ?_
      simp only [List.mem_cons, Event.wrote.injEq, reduceCtorEq, List.not_mem_nil, or_false] at hw
      exact hw ▸ htold
    · rw [walk_of_raises hbuild hraises]
      exact tracks_stop hs (hj.tells_failStep hlt e.message e.message)

/-- A run over a store that its journal tells of leaves such stores. -/
theorem tracks_run (hbuild : build baseline steps = .ok registry) (config : RunConfig)
    (hs : s.Told) : Tracks (registry.run config s) := by
  rcases registry.run_cases config s with
    ⟨-, hwrites, hstore⟩ | ⟨-, -, hrun⟩ | ⟨version, hversion, hlt, hrun⟩
  · refine ⟨fun w hw => ?_, hstore.symm ▸ hs⟩
    have hmem : w ∈ (registry.run config s).writes := List.mem_filterMap.2 ⟨_, hw, rfl⟩
    rw [hwrites] at hmem
    cases hmem
  · -- The journal of a store that is set up is one of no steps.
    rw [hrun]
    have hj : (Journal.begin registry.currentVersion registry.currentVersion).UnderWay
        registry.currentVersion := Journal.underWay_begin (Nat.le_refl _)
    have htold : (registry.setUp s).store.Told := by
      intro entry hentry
      cases hentry
      exact ⟨_, _, rfl, rfl, hj.tells_ended .complete true _ fun _ => rfl⟩
    refine ⟨fun w hw => ?_, htold⟩
    simp only [setUp, List.mem_cons, Event.wrote.injEq, reduceCtorEq, List.not_mem_nil,
      or_false] at hw
    exact hw ▸ htold
  · rw [hrun]
    have hj : (Journal.begin version registry.currentVersion).UnderWay version :=
      Journal.underWay_begin (Nat.le_of_lt hlt)
    have htold := Store.told_writeJournal hversion hj.tells
    have hwalk : Tracks (registry.walk config (registry.currentVersion - version) version
        (.begin version registry.currentVersion) []
        (s.writeJournal (.begin version registry.currentVersion))) :=
      tracks_walk hbuild hversion hj (Nat.add_sub_cancel' (Nat.le_of_lt hlt))
    refine (hwalk.after fun w hw => ?_).after fun w hw => (by simp at hw)
    simp only [List.mem_cons, Event.wrote.injEq, reduceCtorEq, List.not_mem_nil, or_false] at hw
    exact hw ▸ htold

/-- A store that is stamped has no journal yet. -/
theorem told_stamp {s' : Store} (hs : s.Told) (hstamp : registry.stamp version s = .ok s') :
    s'.Told := by
  obtain ⟨hnone, schema, -, rfl⟩ := exists_of_stamp_ok hstamp
  intro entry hentry
  obtain ⟨_, _, -, hstamped, -⟩ := hs entry hentry
  rw [hnone] at hstamped
  cases hstamped

/-- A record that is stored, or refused, changes neither version nor journal. -/
theorem told_insert (hs : s.Told) (name : String) (r : Record) : (s.insert name r).2.Told := by
  obtain ⟨_, _, h⟩ := s.insert_eq name r
  rw [h]
  exact hs

/-- Every store that is reached is told of by its journal. -/
theorem Reachable.told (hbuild : build baseline steps = .ok registry)
    (hs : registry.Reachable s) : s.Told := by
  induction hs with
  | empty => exact nofun
  | stamp version _ hstamp ih => exact told_stamp ih hstamp
  | insert name r _ ih => exact told_insert ih name r
  | setPreference name value _ ih => exact ih
  | run config _ ih => exact (tracks_run hbuild config ih).store
  | cut config _ hwrite ih =>
    obtain ⟨event, hmem, hevent⟩ := List.mem_filterMap.1 hwrite
    cases event with
    | wrote w =>
      cases hevent
      exact (tracks_run hbuild config ih).writes _ hmem
    | entered | advanced => cases hevent
  | draw rows _ _ ih => exact ih

/-- **Journal and header agree.** If a store that is reached has a journal, then it can be read, the
store has a version, and the journal tells of the store at that version. A store is reached after
every single write of every command. -/
theorem journal_of_reachable (hbuild : build baseline steps = .ok registry)
    (hs : registry.Reachable s) {entry : JournalEntry} (hentry : s.journal? = some entry) :
    ∃ j version, entry = .readable j ∧ s.stamped? = some version ∧ j.Tells version :=
  hs.told hbuild entry hentry

/-- A run takes the step before a gap and fails at the next; its journal tells of both. -/
theorem journal_of_reachable_gapped :
    ∃ registry s j, build (.empty 0) gapped = .ok registry ∧ Reachable registry s ∧
      s.journal? = some (.readable j) ∧ j.fromVersion = 0 ∧ j.toVersion = 3 ∧
      j.status = .failed ∧ s.stamped? = some 1 ∧ j.Tells 1 := by
  obtain ⟨registry, report, s₁, hbuild, hcurrent, hstamp, hfirst, hmissing, hs₁⟩ :
      ∃ registry report s₁, build (.empty 0) gapped = .ok registry ∧ registry.currentVersion = 3 ∧
        stamp registry 0 .empty = .ok atFirst ∧
        Commits registry .standard 0 atFirst report s₁ ∧ registry.stepFor? 1 = none ∧
        s₁.stamped? = some 1 :=
    ⟨_, _, _, rfl, rfl, rfl, .step rfl rfl rfl rfl rfl, rfl, rfl⟩
  let j := (Journal.begin 0 3).completeStep 0 report.written report.fallbacks
  let failed := (j.failStep 1 (MigrationError.missingStep 1).message).fail
    (MigrationError.missingStep 1).message
  have hmissing' : Raises registry RunConfig.standard.pass 1 (s₁.writeJournal j) (.missingStep 1)
      s₁.rows := .missing hmissing
  have hfirst' : Commits registry RunConfig.standard.pass 0 (atFirst.writeJournal (.begin 0 3))
      report { s₁ with journal? := some (.readable (.begin 0 3)) } := hfirst.withJournal _
  -- The first step is committed, and the run stops at the second.
  have hwalk : (registry.walk .standard 3 0 (.begin 0 3) []
      (atFirst.writeJournal (.begin 0 3))).store = s₁.writeJournal failed := by
    rw [walk_of_commits hbuild hfirst']
    exact congrArg Run.store (walk_of_raises hbuild hmissing' 1 j [report])
  have hend : (registry.run .standard atFirst).store = s₁.writeJournal failed := by
    rw [run_eq_migrate rfl (by omega) rfl rfl]
    unfold migrate
    rw [hcurrent]
    exact hwalk
  have hreachable : Reachable registry (s₁.writeJournal failed) :=
    hend ▸ .run .standard (.stamp 0 .empty hstamp)
  obtain ⟨j', version, hj', hversion, htells⟩ := journal_of_reachable hbuild hreachable rfl
  cases hj'
  rw [show (s₁.writeJournal failed).stamped? = some 1 from hs₁] at hversion
  cases hversion
  exact ⟨registry, _, failed, hbuild, hreachable, rfl, rfl, rfl, rfl, hs₁, htells⟩

end Registry

end Strata
