import Strata.Proofs.Headers
import Strata.Proofs.Plans
import Strata.Run.Basic

/-!
# Steps of a run

Taking the step from a version either commits its plan (`Registry.Commits`) or raises an error
(`Registry.Raises`), which uses up row numbers at most. Neither depends on the journal, and apart
from the journal they are all that `Registry.stepFrom` does (`stepFrom_cases`).
-/

namespace Strata

namespace Registry

variable {registry : Registry} {config : PassConfig} {version : Nat} {s s' : Store}

/-- The step from a version is planned on a store and its plan is committed. -/
inductive Commits (registry : Registry) (config : PassConfig) (version : Nat) (s : Store) :
    StepReport → Store → Prop
  | step {step : Step} {live next : Schema} {plan : Plan} {rows : RowCounter}
      (found : registry.stepFor? version = some step)
      (source : registry.schemaAt? step.source = some live)
      (target : registry.schemaAt? step.target = some next)
      (fingerprint : s.fingerprint? = some live.fingerprint)
      (planned : (step.plan live next config s).run.run s.rows = (.ok plan, rows)) :
      Commits registry config version s plan.report ({ s with rows }.commit plan.transaction)

/-- The step from a version raises an error on a store, with the row numbers used up until then. -/
inductive Raises (registry : Registry) (config : PassConfig) (version : Nat) (s : Store) :
    MigrationError → RowCounter → Prop
  /-- No step is registered for the version. -/
  | missing (absent : registry.stepFor? version = none) :
      Raises registry config version s (.missingStep version) s.rows
  /-- The history does not pass one of the two versions. -/
  | unknown {step : Step} (found : registry.stepFor? version = some step)
      (unknown : registry.schemaAt? step.source = none ∨ registry.schemaAt? step.target = none) :
      Raises registry config version s (.missingStep step.source) s.rows
  /-- The fingerprint of the stored schema cannot be read. -/
  | unreadable {step : Step} {e : StoreError} (found : registry.stepFor? version = some step)
      (unreadable : s.readFingerprint = .error e) :
      Raises registry config version s (.storage e) s.rows
  /-- The stored schema is not that of the version. -/
  | fingerprint {step : Step} {live : Schema} {stored : Option Fingerprint}
      (found : registry.stepFor? version = some step)
      (source : registry.schemaAt? step.source = some live)
      (readable : s.readFingerprint = .ok stored) (differs : stored ≠ some live.fingerprint) :
      Raises registry config version s (.schemaInconsistency step.source "live schema"
        "stored schema does not match the registry at this version") s.rows
  /-- The plan fails. -/
  | plan {step : Step} {live next : Schema} {e : MigrationError} {rows : RowCounter}
      (found : registry.stepFor? version = some step)
      (source : registry.schemaAt? step.source = some live)
      (target : registry.schemaAt? step.target = some next)
      (fingerprint : s.fingerprint? = some live.fingerprint)
      (failed : (step.plan live next config s).run.run s.rows = (.error e, rows)) :
      Raises registry config version s e rows

/-- A step is planned and committed over a store of its schema. -/
theorem applyStep_eq_commitStep {step : Step} {live next : Schema}
    (hlive : registry.schemaAt? step.source = some live)
    (hnext : registry.schemaAt? step.target = some next)
    (hfp : s.fingerprint? = some live.fingerprint) (journal : Journal) :
    registry.applyStep config step journal s = commitStep config step live next journal s := by
  unfold applyStep
  rw [hlive, hnext]
  dsimp only
  rw [Store.readFingerprint_eq_fingerprint_iff.2 hfp]
  exact if_pos rfl

/-- A step that is planned on a store of its schema is committed along with the journal. -/
theorem stepFrom_of_plan_ok {step : Step} {live next : Schema} {plan : Plan} {rows : RowCounter}
    (hstep : registry.stepFor? version = some step)
    (hlive : registry.schemaAt? step.source = some live)
    (hnext : registry.schemaAt? step.target = some next)
    (hfp : s.fingerprint? = some live.fingerprint)
    (hplan : (step.plan live next config s).run.run s.rows = (.ok plan, rows)) (journal : Journal) :
    registry.stepFrom config version journal s =
      (.ok (plan.report,
        journal.completeStep step.source plan.report.written plan.report.fallbacks),
        (Store.commit { s with rows } plan.transaction).writeJournal
          (journal.completeStep step.source plan.report.written plan.report.fallbacks)) := by
  unfold stepFrom
  rw [hstep]
  dsimp only
  rw [applyStep_eq_commitStep hlive hnext hfp]
  unfold commitStep
  rw [hplan]
  rfl

/-- Taking a step commits its plan along with a journal, or raises an error and writes nothing. -/
theorem stepFrom_cases (registry : Registry) (config : PassConfig) (version : Nat)
    (journal : Journal) (s : Store) :
    (∃ report s' j, Commits registry config version s report s' ∧
      registry.stepFrom config version journal s = (.ok (report, j), s'.writeJournal j) ∧
      ∃ source, j = journal.completeStep source report.written report.fallbacks) ∨
    ∃ e rows, Raises registry config version s e rows ∧
      registry.stepFrom config version journal s = (.error e, { s with rows }) := by
  unfold stepFrom
  cases hstep : registry.stepFor? version with
  | none => exact .inr ⟨_, _, .missing hstep, rfl⟩
  | some step =>
    dsimp only
    unfold applyStep
    cases hlive : registry.schemaAt? step.source with
    | none => exact .inr ⟨_, _, .unknown hstep (.inl hlive), rfl⟩
    | some live =>
      cases hnext : registry.schemaAt? step.target with
      | none => exact .inr ⟨_, _, .unknown hstep (.inr hnext), rfl⟩
      | some next =>
        dsimp only
        cases hread : s.readFingerprint with
        | error e => exact .inr ⟨_, _, .unreadable hstep hread, rfl⟩
        | ok stored =>
          dsimp only
          by_cases hstored : stored = some live.fingerprint
          · have hfp : s.fingerprint? = some live.fingerprint :=
              Store.readFingerprint_eq_fingerprint_iff.1 (hstored ▸ hread)
            rw [if_pos hstored]
            unfold commitStep
            rcases hplan : (step.plan live next config s).run.run s.rows with ⟨e | plan, rows⟩
            · exact .inr ⟨e, rows, .plan hstep hlive hnext hfp hplan, rfl⟩
            · exact .inl ⟨_, _, _, .step hstep hlive hnext hfp hplan, rfl, step.source, rfl⟩
          · rw [if_neg hstored]
            exact .inr ⟨_, _, .fingerprint hstep hlive hread hstored, rfl⟩

/-- A step that succeeds has committed its plan along with the journal. -/
theorem commits_of_stepFrom_ok {journal journal' : Journal} {report : StepReport}
    (h : registry.stepFrom config version journal s = (.ok (report, journal'), s')) :
    ∃ s₁, Commits registry config version s report s₁ ∧ s' = s₁.writeJournal journal' := by
  rcases stepFrom_cases registry config version journal s with
    ⟨_, s₁, _, hcommits, hrun, -⟩ | ⟨e, rows, -, hrun⟩
  · rw [h] at hrun
    cases hrun
    exact ⟨s₁, hcommits, rfl⟩
  · rw [h] at hrun
    cases hrun

/-- What a committed step leaves in the store besides records and preferences: the schema and the
version that it leads to, and the journal as it was. -/
theorem Commits.header {report : StepReport} (h : Commits registry config version s report s') :
    ∃ step next, registry.stepFor? version = some step ∧
      registry.schemaAt? step.target = some next ∧ s'.schema? = some next ∧
      s'.fingerprint? = some next.fingerprint ∧ s'.stamped? = some step.target ∧
      s'.journal? = s.journal? := by
  cases h with
  | step hstep hlive hnext hfp hplan =>
    obtain ⟨_, _, _, _, _, _, -, -, -, -, htransaction⟩ := Step.exists_of_plan_ok hplan
    rw [htransaction]
    refine ⟨_, _, hstep, hnext, rfl, rfl, rfl, ?_⟩
    unfold Store.commit Step.transactionOf
    rw [Store.applyWrites_eq]
    rfl

/-- The stamp and the journal play no part in a committed step. -/
theorem Commits.withHeader {report : StepReport}
    (h : Commits registry config version s report s') (stamp : Option VersionEntry)
    (entry : Option JournalEntry) :
    Commits registry config version { s with version? := stamp, journal? := entry } report
      { s' with journal? := entry } := by
  cases h with
  | @step step live next plan rows hstep hlive hnext hfp hplan =>
    have hplan' : (step.plan live next config
        { s with version? := stamp, journal? := entry }).run.run s.rows = (.ok plan, rows) := hplan
    obtain ⟨_, _, _, _, _, _, -, -, -, -, htransaction⟩ := Step.exists_of_plan_ok hplan
    have hcommit : Store.commit { s with version? := stamp, journal? := entry, rows }
        plan.transaction =
          { Store.commit { s with rows } plan.transaction with journal? := entry } := by
      have hwrites := Store.applyWrites_withHeader { s with rows } stamp entry
      rw [htransaction]
      unfold Store.commit Step.transactionOf
      dsimp only at hwrites ⊢
      rw [hwrites]
      rfl
    exact hcommit ▸ .step hstep hlive hnext hfp hplan'

/-- The journal plays no part in a committed step. -/
theorem Commits.withJournal {report : StepReport}
    (h : Commits registry config version s report s') (entry : Option JournalEntry) :
    Commits registry config version { s with journal? := entry } report
      { s' with journal? := entry } :=
  h.withHeader s.version? entry

/-- The journal plays no part in an error that a step raises. -/
theorem Raises.withJournal {e : MigrationError} {rows : RowCounter}
    (h : Raises registry config version s e rows) (entry : Option JournalEntry) :
    Raises registry config version { s with journal? := entry } e rows := by
  cases h with
  | missing hstep => exact .missing hstep
  | unknown hstep hunknown => exact .unknown hstep hunknown
  | unreadable hstep hread => exact .unreadable hstep hread
  | fingerprint hstep hlive hread hdiffers => exact .fingerprint hstep hlive hread hdiffers
  | plan hstep hlive hnext hfp hplan => exact .plan hstep hlive hnext hfp hplan

/-! ## Steps of an accepted history -/

variable {baseline : Schema} {steps : List Step}

/-- How a committed step of an accepted history came about: its draft went through the transform,
the inserts and the check, and its writes were committed with the next schema and version. -/
inductive Drafted (registry : Registry) (config : PassConfig) (version : Nat) (s s' : Store) :
    Prop
  | of {step : Step} {live next : Schema} {d₁ d : Draft} {count fallbacks : Nat}
      {rows₁ rows : RowCounter} {edits : Std.ExtTreeMap String (Option Value)}
      (found : registry.stepFor? version = some step)
      (source : registry.schemaAt? version = some live)
      (accepts : Accepts live step next)
      (target : registry.schemaAt? (version + 1) = some (atVersion next (version + 1)))
      (transformed : (step.transformed (atVersion next (version + 1)) config
        (step.edited (s.snapshot live))).run.run s.rows = (.ok (d₁, count, fallbacks), rows₁))
      (inserted : (d₁.addAll (atVersion next (version + 1)) step.inserts).run.run rows₁ =
        (.ok d, rows))
      (valid : d.validate (atVersion next (version + 1)) (step.transform?.map (·.1)) = .ok ())
      (stamped : step.target = version + 1)
      (committed : s' = Store.commit { s with rows }
        (Step.transactionOf step (atVersion next (version + 1)) d edits)) :
      Drafted registry config version s s'

/-- A registered step leads from the schema of its version to that of the next. -/
theorem accepts_of_schemaAt? (hbuild : build baseline steps = .ok registry) {step : Step}
    (hstep : registry.stepFor? version = some step) {live next : Schema}
    (hlive : registry.schemaAt? step.source = some live)
    (hnext : registry.schemaAt? step.target = some next) :
    step.source = version ∧ ∃ next₀, Accepts live step next₀ ∧
      next = atVersion next₀ (version + 1) := by
  obtain ⟨rfl, -⟩ := stepFor?_eq_some hbuild hstep
  obtain ⟨live', next₀, hlive', haccepts, hnext', -⟩ := exists_accepts hbuild hstep
  rw [hlive] at hlive'
  cases hlive'
  have hsame : registry.schemaAt? step.target = some (atVersion next₀ (step.source + 1)) := hnext'
  rw [hnext] at hsame
  cases hsame
  exact ⟨rfl, next₀, haccepts, rfl⟩

/-- Every committed step of an accepted history came about so. -/
theorem Commits.drafted (hbuild : build baseline steps = .ok registry) {report : StepReport}
    (h : Commits registry config version s report s') :
    Drafted registry config version s s' := by
  cases h with
  | @step step live next plan rows hstep hsource htarget _ hplan =>
    obtain ⟨rfl, next₀, haccepts, rfl⟩ := accepts_of_schemaAt? hbuild hstep hsource htarget
    obtain ⟨d₁, count, fallbacks, rows₁, d, edits, htransformed, hadd, hvalid, -, htransaction⟩ :=
      Step.exists_of_plan_ok hplan
    rw [htransaction]
    exact .of hstep hsource haccepts htarget htransformed hadd hvalid rfl rfl

/-- What a committed step reports, once the phases that its plan went through are known. -/
theorem Commits.report_eq (hbuild : build baseline steps = .ok registry) {report : StepReport}
    (h : Commits registry config version s report s') {step : Step} {live next : Schema}
    {d₁ d : Draft} {count fallbacks : Nat} {rows₁ rows₂ : RowCounter}
    (hstep : registry.stepFor? version = some step)
    (hlive : registry.schemaAt? version = some live)
    (hnext : registry.schemaAt? (version + 1) = some next)
    (htransformed : (step.transformed next config (step.edited (s.snapshot live))).run.run s.rows =
      (.ok (d₁, count, fallbacks), rows₁))
    (hadd : (d₁.addAll next step.inserts).run.run rows₁ = (.ok d, rows₂)) :
    report.transformed = count ∧ report.added = d.added ∧ report.written = d.puts.length ∧
      report.deleted = d.deletions.length ∧ report.fallbacks = fallbacks := by
  cases h with
  | step hfound hsource htarget _ hplan =>
    rw [hstep] at hfound
    cases hfound
    obtain ⟨rfl, -⟩ := stepFor?_eq_some hbuild hstep
    rw [hlive] at hsource
    cases hsource
    have hsame : registry.schemaAt? step.target = some next := hnext
    rw [hsame] at htarget
    cases htarget
    exact Step.report_of_plan_ok hplan htransformed hadd

/-- What a step commits is all that taking it does, whatever the journal of the run. -/
theorem Commits.stepFrom_eq (hbuild : build baseline steps = .ok registry) {report : StepReport}
    (h : Commits registry config version s report s') (journal : Journal) :
    registry.stepFrom config version journal s =
      (.ok (report, journal.completeStep version report.written report.fallbacks),
        s'.writeJournal (journal.completeStep version report.written report.fallbacks)) := by
  cases h with
  | step hstep hlive hnext hfp hplan =>
    obtain ⟨rfl, -⟩ := stepFor?_eq_some hbuild hstep
    exact stepFrom_of_plan_ok hstep hlive hnext hfp hplan journal

/-- The error that a step raises is all that taking it gives, whatever the journal of the run. -/
theorem Raises.stepFrom_eq (hbuild : build baseline steps = .ok registry) {e : MigrationError}
    {rows : RowCounter} (h : Raises registry config version s e rows) (journal : Journal) :
    registry.stepFrom config version journal s = (.error e, { s with rows }) := by
  -- A registered step finds both of its schemas.
  have hschemas : ∀ step, registry.stepFor? version = some step →
      ∃ live next, registry.schemaAt? step.source = some live ∧
        registry.schemaAt? step.target = some next := by
    intro step hstep
    obtain ⟨live, next, hlive, -, hnext, -⟩ := exists_accepts hbuild hstep
    obtain ⟨rfl, -⟩ := stepFor?_eq_some hbuild hstep
    exact ⟨live, _, hlive, hnext⟩
  unfold stepFrom
  cases h with
  | missing hstep => rw [hstep]
  | @unknown step hstep hunknown =>
    obtain ⟨live, next, hlive, hnext⟩ := hschemas step hstep
    rcases hunknown with hnone | hnone
    · rw [hlive] at hnone
      cases hnone
    · rw [hnext] at hnone
      cases hnone
  | @unreadable step e hstep hread =>
    obtain ⟨live, next, hlive, hnext⟩ := hschemas step hstep
    rw [hstep]
    dsimp only
    unfold applyStep
    rw [hlive, hnext]
    dsimp only
    rw [hread]
  | @fingerprint step live stored hstep hlive hread hdiffers =>
    obtain ⟨-, next, -, hnext⟩ := hschemas step hstep
    rw [hstep]
    dsimp only
    unfold applyStep
    rw [hlive, hnext]
    dsimp only
    rw [hread]
    exact if_neg hdiffers
  | plan hstep hlive hnext hfp hplan =>
    rw [hstep]
    dsimp only
    rw [applyStep_eq_commitStep hlive hnext hfp]
    unfold commitStep
    rw [hplan]

/-- The step from a version commits something or raises an error. -/
theorem commits_or_raises (registry : Registry) (config : PassConfig) (version : Nat) (s : Store) :
    (∃ report s', Commits registry config version s report s') ∨
      ∃ e rows, Raises registry config version s e rows := by
  rcases stepFrom_cases registry config version default s with
    ⟨report, s', -, hcommits, -⟩ | ⟨e, rows, hraises, -⟩
  · exact .inl ⟨report, s', hcommits⟩
  · exact .inr ⟨e, rows, hraises⟩

/-- A run whose next step commits goes on from what was committed along with its journal. -/
theorem walk_of_commits (hbuild : build baseline steps = .ok registry) {config : RunConfig}
    {report : StepReport} (h : Commits registry config.pass version s report s') (count : Nat)
    (journal : Journal) (before : List StepReport) :
    registry.walk config (count + 1) version journal before s =
      (registry.walk config count (version + 1)
        (journal.completeStep version report.written report.fallbacks) (before ++ [report])
        (s'.writeJournal (journal.completeStep version report.written report.fallbacks))).after
        [.wrote (s'.writeJournal (journal.completeStep version report.written report.fallbacks)),
          .advanced (.stepping (version + 1) registry.currentVersion)] := by
  conv_lhs => unfold walk
  rw [h.stepFrom_eq hbuild]

/-- A run whose next step raises an error stops there. -/
theorem walk_of_raises (hbuild : build baseline steps = .ok registry) {config : RunConfig}
    {e : MigrationError} {rows : RowCounter} (h : Raises registry config.pass version s e rows)
    (count : Nat) (journal : Journal) (before : List StepReport) :
    registry.walk config (count + 1) version journal before s =
      stop (journal.failStep version e.message) e { s with rows } := by
  unfold walk
  rw [h.stepFrom_eq hbuild]

end Registry

end Strata
