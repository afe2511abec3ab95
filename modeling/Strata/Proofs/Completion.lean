import Strata.Proofs.Checks
import Strata.Proofs.Stepping
import Strata.Proofs.Totality

/-!
# Runs that cannot fail

A history of which no step can fail (`Registry.Complete`) brings every consistent store to its
current version, as long as row numbers are left for the records that its steps insert
(`Registry.Complete.exists_run`). Each step has a plan, whose commit leaves a store that is
consistent at the next version, and the final check of such a store finds nothing.
-/

namespace Strata

namespace Registry

/-- A history without gaps, of which no step can fail on a store of the schema it starts from. -/
structure Complete (baseline : Schema) (steps : List Step) (registry : Registry) : Prop where
  /-- The registry is that of the baseline and the steps. -/
  built : build baseline steps = .ok registry
  /-- The names of the fields of each baseline entity are distinct. -/
  distinct : baseline.DistinctFields
  /-- No entity name of a schema holds the null character. -/
  names : ∀ version schema, registry.schemaAt? version = some schema → schema.NulFreeNames
  /-- The current schema has entities. -/
  entities : registry.current.entities.isEmpty = false
  /-- A step leads on from every older version. -/
  dense : ∀ version schema, registry.schemaAt? version = some schema →
    version < registry.currentVersion → ∃ step, registry.stepFor? version = some step
  /-- No part of a step can fail. -/
  total : ∀ step ∈ steps, ∀ live next, registry.schemaAt? step.source = some live →
    registry.schemaAt? step.target = some next → step.Total live next

/-- The number of records that the steps from a version on insert. -/
def insertedFrom : List Step → Nat → Nat
  | [], _ => 0
  | step :: rest, version =>
    (if version ≤ step.source then step.inserts.length else 0) + insertedFrom rest version

/-- Later steps insert no more records. -/
theorem insertedFrom_succ (steps : List Step) (version : Nat) :
    insertedFrom steps (version + 1) ≤ insertedFrom steps version := by
  induction steps with
  | nil => exact Nat.le_refl 0
  | cons step rest ih =>
    unfold insertedFrom
    refine Nat.add_le_add ?_ ih
    split
    · next hle => exact Nat.le_of_eq (if_pos (Nat.le_of_succ_le hle)).symm
    · exact Nat.zero_le _

/-- The step from a version inserts its own records and leaves those of the later steps. -/
theorem insertedFrom_succ_le {steps : List Step} {step : Step} (hmem : step ∈ steps) :
    step.inserts.length + insertedFrom steps (step.source + 1) ≤
      insertedFrom steps step.source := by
  induction steps with
  | nil => cases hmem
  | cons first rest ih =>
    have hmore := insertedFrom_succ rest step.source
    unfold insertedFrom
    rcases List.mem_cons.1 hmem with rfl | hrest
    · rw [if_neg (Nat.not_succ_le_self _), if_pos (Nat.le_refl _)]
      omega
    · have hrest := ih hrest
      split
      · rw [if_pos (by omega)]
        omega
      · omega

variable {baseline : Schema} {steps : List Step} {registry : Registry} {version : Nat} {s : Store}

/-- A commit draws no row number. -/
theorem rows_commit (s : Store) (t : Transaction) : (s.commit t).rows = s.rows := by
  unfold Store.commit
  rw [Store.applyWrites_eq]

/-- Over a consistent store a step is committed if row numbers are left for the records that it
inserts; it draws one for each. -/
theorem Complete.exists_commits (h : Complete baseline steps registry) (config : PassConfig)
    (hs : Consistent registry version s) {step : Step}
    (hstep : registry.stepFor? version = some step) (hrows : step.inserts.length ≤ s.rows.left)
    (journal : Journal) :
    ∃ report journal' s', Commits registry config version s report s' ∧
      registry.stepFrom config version journal s =
        (.ok (report, journal'), s'.writeJournal journal') ∧
      s'.rows.left = s.rows.left - step.inserts.length := by
  obtain ⟨schema, hschema, -, hfp, hholds⟩ := hs.live
  obtain ⟨live, next, hlive, haccepts, hnext, -⟩ := exists_accepts h.built hstep
  obtain ⟨rfl, hmem⟩ := stepFor?_eq_some h.built hstep
  rw [hschema] at hlive
  cases hlive
  have htotal := h.total step hmem _ _ hschema hnext
  have hdistinct := distinctFields_of_schemaAt? h.built h.distinct hschema
  have hreads := hholds.readsFit (h.names _ _ hschema).namesApart
  obtain ⟨plan, rows, hplan, hdrawn⟩ :=
    Step.exists_plan haccepts htotal hreads.snapshot_fits hdistinct config hrows
  have htarget : registry.schemaAt? step.target = some (atVersion next (step.source + 1)) := hnext
  refine ⟨plan.report, _, Store.commit { s with rows } plan.transaction,
    .step hstep hschema hnext hfp hplan,
    stepFrom_of_plan_ok hstep hschema htarget hfp hplan journal, ?_⟩
  rw [rows_commit]
  exact hdrawn

/-- Over a consistent store the step from an older version is committed, and draws a row number for
each record that it inserts. -/
theorem Complete.exists_stepFrom (h : Complete baseline steps registry) (config : PassConfig)
    (hs : Consistent registry version s) (hlt : version < registry.currentVersion)
    (hrows : insertedFrom steps version ≤ s.rows.left) (journal : Journal) :
    ∃ report journal' s',
      registry.stepFrom config version journal s = (.ok (report, journal'), s') ∧
      Consistent registry (version + 1) s' ∧
      insertedFrom steps (version + 1) ≤ s'.rows.left := by
  obtain ⟨schema, hschema, -⟩ := hs.live
  obtain ⟨step, hstep⟩ := h.dense version schema hschema hlt
  obtain ⟨rfl, hmem⟩ := stepFor?_eq_some h.built hstep
  -- Row numbers are left for this step, and for the later ones after it.
  have hinserted := insertedFrom_succ_le hmem
  obtain ⟨report, journal', s', hcommits, htaken, hdrawn⟩ :=
    h.exists_commits config hs hstep (by omega) journal
  refine ⟨report, journal', _, htaken, (hcommits.consistent h.built h.names hs).congr _ _, ?_⟩
  have hkept : (s'.writeJournal journal').rows = s'.rows := rfl
  rw [hkept]
  omega

/-- The final check of a consistent store finds nothing. -/
theorem Complete.violations_eq (h : Complete baseline steps registry)
    (hs : Consistent registry registry.currentVersion s) (verifyRecords : Bool) :
    Checker.violations s registry verifyRecords = .ok [] := by
  have hcurrent := schemaAt?_current h.built
  rw [Checker.violations_of_consistent hcurrent
    (distinctFields_of_schemaAt? h.built h.distinct hcurrent) (h.names _ _ hcurrent) hs,
    h.entities]
  rfl

/-- From a consistent store all the steps that remain are taken, and the run is concluded. -/
theorem Complete.exists_walk (h : Complete baseline steps registry) {config : RunConfig}
    {count : Nat} {journal : Journal} {reports : List StepReport}
    (hs : Consistent registry version s) (hcount : version + count = registry.currentVersion)
    (hrows : insertedFrom steps version ≤ s.rows.left) :
    (∃ report, (registry.walk config count version journal reports s).outcome = .ok report) ∧
      Consistent registry registry.currentVersion
        (registry.walk config count version journal reports s).store := by
  induction count generalizing version journal reports s with
  | zero =>
    obtain rfl : version = registry.currentVersion := hcount
    have hcheck : Checker.check s registry config.verifyRecords = .ok () := by
      unfold Checker.check
      rw [h.violations_eq hs]
    unfold walk conclude
    rw [hcheck]
    exact ⟨⟨_, rfl⟩, hs.congr _ s.rows⟩
  | succ count ih =>
    -- The step is committed, and what it leaves is as good a start for the next one.
    obtain ⟨report, journal', s', hstep, hs', hrows'⟩ :=
      h.exists_stepFrom config.pass hs (by omega) hrows journal
    unfold walk
    rw [hstep]
    exact ih hs' (by omega) hrows'

/-- **Complete histories bring every store forward.** A run over a consistent store whose journal
does not block it succeeds and leaves a store that is consistent at the current version, if row
numbers are left for the records that the steps from its version on insert. -/
theorem Complete.exists_run (h : Complete baseline steps registry) (config : RunConfig)
    (hs : Consistent registry version s) (hle : version ≤ registry.currentVersion)
    {journal : Option Journal} (hread : s.readJournal = .ok journal)
    (hblocks : blocks config journal = none)
    (hrows : insertedFrom steps version ≤ s.rows.left) :
    (∃ report, (registry.run config s).outcome = .ok report) ∧
      Consistent registry registry.currentVersion (registry.run config s).store := by
  by_cases hcurrent : version = registry.currentVersion
  · subst hcurrent
    rw [run_eq_unchanged hs.stamped hread hblocks]
    exact ⟨⟨_, rfl⟩, hs⟩
  · rw [run_eq_migrate hs.stamped (Nat.lt_of_le_of_ne hle hcurrent) hread hblocks]
    have hs' : Consistent registry version
        (s.writeJournal (.begin version registry.currentVersion)) := hs.congr _ s.rows
    exact h.exists_walk hs' (Nat.add_sub_cancel' hle) hrows

end Registry

end Strata
