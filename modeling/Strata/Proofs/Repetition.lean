import Strata.Proofs.FinalChecks

/-!
# Running again

A store is settled if it is current and its journal does not keep it from being run
(`Registry.Settled`): a run over it does nothing. However a run came to succeed, by setting up a
store, by taking steps or by finding nothing to do, the store that it leaves is settled
(`Registry.settled_of_run_ok`). So the steps of a history are not taken again, whatever taking them
twice would do (`Registry.run_again_of_run_ok`).
-/

namespace Strata

namespace Registry

variable {registry : Registry} {config : RunConfig} {s : Store} {report : RunReport}

/-- Whether a run has nothing to do over a store. -/
structure Settled (registry : Registry) (config : RunConfig) (s : Store) : Prop where
  /-- The store is at the current version. -/
  current : s.stamped? = some registry.currentVersion
  /-- The journal can be read and does not keep the store from being run. -/
  free : ∃ journal, s.readJournal = .ok journal ∧ blocks config journal = none

/-- A current store whose journal is complete is settled. -/
theorem settled_of_complete {j : Journal} (hs : s.stamped? = some registry.currentVersion)
    (hj : s.journal? = some (.readable j)) (hcomplete : j.status = .complete) :
    Settled registry config s := by
  have hread : s.readJournal = .ok (some j) := by
    unfold Store.readJournal
    rw [hj]
  refine ⟨hs, some j, hread, blocks_eq_none fun j' hj' hfailed => ?_⟩
  cases hj'
  rw [hcomplete] at hfailed
  cases hfailed

/-- A run that succeeds leaves a settled store. -/
theorem settled_of_run_ok (hok : (registry.run config s).outcome = .ok report) :
    Settled registry config (registry.run config s).store := by
  rcases unchanged_or_complete_of_run_ok hok with
    ⟨hcurrent, -, hstore⟩ | ⟨-, hcurrent, j, hj, hdone⟩
  · -- The journal is the one that this run has accepted.
    obtain ⟨-, hfree⟩ := free_of_run_ok hcurrent hok
    rw [hstore]
    exact ⟨hcurrent, hfree⟩
  · exact settled_of_complete hcurrent hj hdone

/-- A run over a settled store only looks at it. -/
theorem Settled.run_eq (h : Settled registry config s) :
    registry.run config s =
      ⟨[.entered (.idle registry.currentVersion), .advanced .finished],
        .ok (.unchanged registry.currentVersion), s⟩ := by
  obtain ⟨journal, hread, hfree⟩ := h.free
  exact run_eq_unchanged h.current hread hfree

/-- **Running again does nothing.** After a run that succeeds, another one with the same
configuration succeeds too, reports that it did nothing, writes nothing, and leaves the whole store
as it was: its records, its schema, its header, its journal and its preferences. -/
theorem run_again_of_run_ok (hok : (registry.run config s).outcome = .ok report) :
    (∃ again, (registry.run config (registry.run config s).store).outcome = .ok again ∧
      again.isNoop = true) ∧
    (registry.run config (registry.run config s).store).writes = [] ∧
    (registry.run config (registry.run config s).store).store = (registry.run config s).store := by
  rw [(settled_of_run_ok hok).run_eq]
  exact ⟨⟨_, rfl, rfl⟩, rfl, rfl⟩

/-- A store of people without a version that holds a notification action. -/
def preferring : Store :=
  { Store.empty with preferences := (∅ : Preferences).insert "notifAction1" (.int 3) }

/-- A run renumbers an action and the next run does not renumber it again, although the number that
it has then stands for another action. -/
theorem run_again_of_run_ok_renumbering :
    ∃ registry s report again, build people [renumbering] = .ok registry ∧
      registry.stamp 0 preferring = .ok s ∧
      (registry.run .standard s).outcome = .ok report ∧ report.isNoop = false ∧
      (registry.run .standard s).store.preference? "notifAction1" = some (.int 4) ∧
      (registry.run .standard (registry.run .standard s).store).outcome = .ok again ∧
      again.isNoop = true ∧
      (registry.run .standard (registry.run .standard s).store).store.preference? "notifAction1" =
        some (.int 4) ∧
      Messages.renumberNotification 4 = 2 := by
  obtain ⟨registry, s, report, s', hbuild, hstamp, hbehind, haction, hstamped, hfp, hread, hstored,
      hschema, horphans, hentities, hscan⟩ :
      ∃ registry s report s', build people [renumbering] = .ok registry ∧
        registry.stamp 0 preferring = .ok s ∧ OneStepBehind registry .standard 0 s report s' ∧
        s'.preference? "notifAction1" = some (.int 4) ∧
        s'.stamped? = some registry.currentVersion ∧
        s'.fingerprint? = some registry.fingerprint ∧
        s'.readSchema = .ok (some registry.current) ∧ s'.storedEntities = .ok [] ∧
        Checker.schemaViolations registry.current registry.current = [] ∧
        Checker.orphanViolations s' registry.current [] = [] ∧
        registry.current.entities.toList = [("Person", ⟨"Person", [.primary "name" .str]⟩)] ∧
        s'.scan "Person" = [] :=
    ⟨_, _, _, _, rfl, rfl, ⟨rfl, rfl, ⟨none, rfl, nofun⟩, .step rfl rfl rfl rfl rfl⟩, rfl, rfl, rfl,
      rfl, rfl, rfl, rfl, rfl, rfl⟩
  have hcheck : Checker.check s' registry true = .ok () := by
    rw [Checker.check_eq_ok_iff,
      Checker.violations_of_current hstamped hfp hread hschema hstored horphans, if_pos rfl,
      Checker.recordViolations_eq_of_toList hentities, hscan, List.flatMap_nil]
  obtain ⟨⟨report', hok, hsteps⟩, j, hstore, -⟩ := hbehind.run_succeeds .standard hbuild hcheck
  have hfirst : (registry.run .standard s).store.preference? "notifAction1" = some (.int 4) := by
    rw [hstore]
    exact haction
  obtain ⟨⟨again, hagain, hnoop⟩, -, hsame⟩ := run_again_of_run_ok hok
  refine ⟨registry, s, report', again, hbuild, hstamp, hok, hsteps, hfirst, hagain, hnoop, ?_, rfl⟩
  rw [hsame]
  exact hfirst

end Registry

end Strata
