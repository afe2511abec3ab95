import Strata.Proofs.Consistency
import Strata.Proofs.Phases

/-!
# Defects of histories

Some errors tell of a defect of a history (`MigrationError.isBuildError`). A history that is refused
is refused with such an error, and one of its steps is to blame for it
(`Registry.exists_blamed_of_build_error`): every check of the replay blames the step that it looks
at (`Registry.replay_blames`), whatever the schema.

A run over a history that was accepted ends on an error of this kind in one case only, and a stamp
never does (`Registry.isBuildError_of_misled`). In that case the history is not to blame: a run that
is about to take the step from the version of a store, and finds that the fingerprint in the header
is not that of the schema at this version (`Registry.Misled`), calls it an inconsistency of the
schema (`Registry.exists_run_error_isBuildError`). Later steps of a run never find this, since every
step stamps the fingerprint that the next one looks for (`Registry.Commits.not_stray`). A header
that cannot be read is not taken for a defect of the history: the run ends on the failure to read.
-/

namespace Strata

/-- The version of the step that is to blame for a defect of a history. -/
def MigrationError.blamed? : MigrationError → Option Nat
  | duplicateVersion version | missingDefault version _ _ | duplicateTable version _
  | schemaInconsistency version _ _ => some version
  | _ => none

/-- An error is a defect of the history if a step is to blame for it. -/
theorem MigrationError.isBuildError_eq_isSome (e : MigrationError) :
    e.isBuildError = e.blamed?.isSome := by
  cases e <;> rfl

/-- Nothing but a defect of the history is raised, with the step from a version to blame. -/
def Blames {α : Type} (version : Nat) (x : Except MigrationError α) : Prop :=
  ∀ e, x = .error e → e.blamed? = some version

namespace Blames

variable {α β : Type} {version : Nat}

theorem ok (a : α) : Blames version (.ok a) := nofun

theorem error {e : MigrationError} (h : e.blamed? = some version) :
    Blames version (.error e : Except MigrationError α) := by
  intro e' he
  cases he
  exact h

theorem bind {x : Except MigrationError α} {f : α → Except MigrationError β}
    (hx : Blames version x) (hf : ∀ a, Blames version (f a)) : Blames version (x >>= f) := by
  intro e he
  rcases bind_eq_error_iff.1 he with he | ⟨a, -, he⟩
  · exact hx e he
  · exact hf a e he

theorem forM {xs : List α} {f : α → Except MigrationError Unit}
    (h : ∀ x ∈ xs, Blames version (f x)) : Blames version (xs.forM f) := by
  intro e he
  obtain ⟨x, hx, he⟩ := exists_of_forM_eq_error he
  exact h x hx e he

theorem foldlM {xs : List α} {f : β → α → Except MigrationError β} {b : β}
    (h : ∀ b, ∀ x ∈ xs, Blames version (f b x)) : Blames version (xs.foldlM f b) := by
  intro e he
  obtain ⟨x, hx, b', he⟩ := exists_of_foldlM_eq_error he
  exact h b' x hx e he

end Blames

/-! ## Histories that are refused -/

namespace Edit

variable {schema : Schema} {version : Nat}

theorem checkTarget_blames (owner : String) (field : Field) :
    Blames version (checkTarget schema owner field version) := by
  unfold checkTarget
  split
  · split
    · exact .ok _
    · exact .error rfl
  · exact .ok _

theorem checkPrimaryKey_blames (e : Entity) (entity : String) (field : Field)
    (cleared : List String) : Blames version (checkPrimaryKey e entity field cleared version) := by
  unfold checkPrimaryKey
  split
  · exact .error rfl
  split
  · exact .error rfl
  · exact .ok _

theorem checkDefault_blames (entity : String) (field : Field) :
    Blames version (checkDefault entity field version) := by
  unfold checkDefault
  split
  · split
    · exact .ok _
    split
    · exact .error rfl
    · exact .error rfl
  · exact .error rfl

theorem insertField_blames (entity : String) (field : Field) (cleared : List String) :
    Blames version (insertField schema entity field cleared version) := by
  unfold insertField
  split
  · exact .error rfl
  next e _ =>
  split
  · exact .error rfl
  dsimp only
  split
  · exact (checkPrimaryKey_blames e entity field cleared).bind fun _ => .ok _
  · exact (checkDefault_blames entity field).bind fun _ => .ok _

theorem dropField_blames (entity field : String) :
    Blames version (dropField schema entity field version) := by
  unfold dropField
  split
  · exact .error rfl
  split
  · exact .error rfl
  split
  · exact .error rfl
  · exact .ok _

theorem checkFields_blames (owner : String) (seen : List String) (fields : List Field) :
    Blames version (checkFields schema owner version seen fields) := by
  induction fields generalizing seen with
  | nil => exact .ok _
  | cons f rest ih =>
    unfold checkFields
    split
    · exact .error rfl
    split
    · exact .error rfl
    · exact (checkTarget_blames owner f).bind fun _ => ih _

theorem insertTable_blames (e : Entity) : Blames version (insertTable schema e version) := by
  unfold insertTable
  split
  · exact .error rfl
  · refine (checkFields_blames e.name [] e.fields).bind fun _ => ?_
    split
    · exact .error rfl
    · exact .ok _

/-- An edit that is refused is refused for a defect of its step. -/
theorem apply_blames (edit : Edit) (cleared : List String) :
    Blames version (edit.apply schema cleared version) := by
  cases edit with
  | addField entity field =>
    exact (checkTarget_blames entity field).bind fun _ => insertField_blames entity field cleared
  | addReference entity field =>
    unfold apply
    dsimp only
    split
    · exact .error rfl
    · exact (checkTarget_blames entity field).bind fun _ => insertField_blames entity field cleared
  | removeField entity field => exact dropField_blames entity field
  | createTable e => exact insertTable_blames e

/-- Edits that are refused are refused for a defect of their step. -/
theorem applyAll_blames (edits : List Edit) (cleared : List String) :
    Blames version (applyAll edits schema cleared version) :=
  .foldlM fun _ edit _ => apply_blames edit cleared

end Edit

namespace Registry

theorem checkClears_blames (schema : Schema) (step : Step) :
    Blames step.source (checkClears schema step) := by
  refine .forM fun entity _ => ?_
  split
  · exact .ok _
  · exact .error rfl

theorem checkTransforms_blames (schema : Schema) (step : Step) :
    Blames step.source (checkTransforms schema step) := by
  unfold checkTransforms
  split
  · exact .error rfl
  split
  · split
    · exact .ok _
    · exact .error rfl
  · exact .ok _

theorem checkInserts_blames (schema : Schema) (step : Step) :
    Blames step.source (checkInserts schema step) := by
  refine .forM fun ⟨entity, r⟩ _ => ?_
  dsimp only
  split
  · exact .error rfl
  · refine .forM fun name _ => ?_
    split
    · exact .ok _
    · exact .error rfl

/-- A step that is refused over a schema is to blame for it. -/
theorem replay_blames (schema : Schema) (step : Step) :
    Blames step.source (replay schema step) := by
  refine (checkClears_blames schema step).bind fun _ => ?_
  refine (Edit.applyAll_blames step.edits step.clears).bind fun next => ?_
  refine (checkTransforms_blames next step).bind fun _ => ?_
  exact (checkInserts_blames next step).bind fun _ => .ok _

/-- A step that is refused in its place is to blame for it. -/
theorem extend_blames (state : Std.ExtTreeMap Nat Schema × Schema) (step : Step) :
    Blames step.source (extend state step) := by
  unfold extend
  dsimp only
  split
  · exact .error rfl
  · exact (replay_blames _ step).bind fun _ => .ok _

variable {baseline : Schema} {steps : List Step}

/-- A history that is refused is refused for a defect that one of its steps is to blame for. -/
theorem exists_blamed_of_build_error {e : MigrationError} (h : build baseline steps = .error e) :
    ∃ step ∈ steps, e.blamed? = some step.source := by
  rcases bind_eq_error_iff.1 h with h | ⟨index, hindex, h⟩
  -- Two steps share a version, or one of the steps is refused in its place.
  · obtain ⟨step, hmem, index, hstep⟩ := exists_of_foldlM_eq_error h
    split at hstep
    · cases hstep
      exact ⟨step, hmem, rfl⟩
    · cases hstep
  rcases bind_eq_error_iff.1 h with h | ⟨_, -, h⟩
  · obtain ⟨step, hvalue, state, hstep⟩ := exists_of_foldlM_eq_error h
    obtain ⟨version, hversion⟩ := mem_values_iff.1 hvalue
    obtain ⟨-, hmem⟩ := indexSteps_eq_ok hindex hversion
    exact ⟨step, hmem, extend_blames state step e hstep⟩
  · cases h

end Registry

/-! ## Runs and stamps -/

/-- A run does not end on a defect of the history. -/
def Run.Acquits (r : Run) : Prop := ∀ e, r.outcome = .error e → e.isBuildError = false

/-- A fault of a record is no defect of the history. -/
theorem MigrationError.isBuildError_of_faultsRecord {e : MigrationError}
    (h : e.faultsRecord = true) : e.isBuildError = false := by
  cases e with
  | duplicateVersion | missingDefault | duplicateTable | schemaInconsistency => cases h
  | _ => rfl

namespace Registry

variable {baseline : Schema} {steps : List Step} {registry : Registry} {config : RunConfig}
  {version : Nat} {s s' : Store}

/-- A run that stops acquits the history if the error does. -/
theorem acquits_stop {e : MigrationError} (he : e.isBuildError = false) (journal : Journal)
    (s : Store) : (stop journal e s).Acquits := by
  intro e' he'
  cases he'
  exact he

/-- The final check of a store acquits the history. -/
theorem acquits_conclude (journal : Journal) (reports : List StepReport) (s : Store) :
    (registry.conclude config journal reports s).Acquits := by
  unfold conclude
  split
  · next e he =>
    refine acquits_stop ?_ journal s
    unfold Checker.check at he
    split at he
    · cases he
      rfl
    · cases he
    · cases he
      rfl
  · exact nofun

/-- A store that cannot be stamped is refused without blaming the history. -/
theorem isBuildError_of_stamp_error {e : MigrationError}
    (h : registry.stamp version s = .error e) : e.isBuildError = false := by
  unfold stamp at h
  split at h
  · cases h
    rfl
  · cases h
    rfl
  split at h
  · cases h
    rfl
  · cases h

/-- The next step is for the store that a step leaves. -/
theorem Commits.not_stray (hbuild : build baseline steps = .ok registry) {config : PassConfig}
    {report : StepReport} (h : Commits registry config version s report s') :
    ¬registry.Stray (version + 1) s' := by
  obtain ⟨step, next, hstep, hnext, -, hfp, -⟩ := h.header
  obtain ⟨rfl, -⟩ := stepFor?_eq_some hbuild hstep
  exact not_stray_of_fingerprint hnext hfp

section GivesUp

variable (hgivesUp : ∀ step ∈ steps, ∀ e, step.GivesUp e →
  ∃ entity reason, e = .transform entity reason)
include hgivesUp

/-- A step that is for the store fails without blaming the history. -/
theorem Raises.isBuildError (hbuild : build baseline steps = .ok registry) {config : PassConfig}
    {e : MigrationError} {rows : RowCounter} (h : Raises registry config version s e rows)
    (hs : ¬registry.Stray version s) : e.isBuildError = false := by
  rcases h.error_cases hbuild with
    rfl | ⟨_, -, rfl⟩ | ⟨hstray, -⟩ | ⟨step, hmem, hgives⟩ | hfaults
  · rfl
  · rfl
  · exact absurd hstray hs
  · obtain ⟨entity, reason, rfl⟩ := hgivesUp step hmem e hgives
    rfl
  · exact MigrationError.isBuildError_of_faultsRecord hfaults

/-- Steps of which the first is for the store are taken without blaming the history. -/
theorem acquits_walk (hbuild : build baseline steps = .ok registry) (count : Nat)
    (journal : Journal) (reports : List StepReport) (hs : ¬registry.Stray version s) :
    (registry.walk config count version journal reports s).Acquits := by
  induction count generalizing version journal reports s with
  | zero => exact acquits_conclude journal reports s
  | succ count ih =>
    rcases commits_or_raises registry config.pass version s with
      ⟨report, s', hcommits⟩ | ⟨e, rows, hraises⟩
    · rw [walk_of_commits hbuild hcommits]
      -- The journal is no part of what the next step looks at.
      exact ih _ _ (show ¬registry.Stray (version + 1) s' from hcommits.not_stray hbuild)
    · rw [walk_of_raises hbuild hraises]
      exact acquits_stop (hraises.isBuildError hgivesUp hbuild hs) _ _

end GivesUp

/-- A run is misled by the header of a store: it gets to take the step from the version of the
store, and this step is not for the store. -/
structure Misled (registry : Registry) (config : RunConfig) (s : Store) (version : Nat) : Prop where
  /-- The store has the version. -/
  stamped : s.stamped? = some version
  /-- The journal does not keep the store from being run. -/
  free : ∃ journal, s.readJournal = .ok journal ∧ blocks config journal = none
  /-- The step is not for the store. -/
  stray : registry.Stray version s

/-- A run that is misled ends on an inconsistency of the schema. -/
theorem Misled.outcome_eq (hbuild : build baseline steps = .ok registry)
    (h : registry.Misled config s version) :
    (registry.run config s).outcome = .error (.schemaInconsistency version "live schema"
      "stored schema does not match the registry at this version") := by
  obtain ⟨hs, ⟨journal, hjournal, hfree⟩, ⟨step, hstep⟩, live, stored, hlive, hread, hdiffers⟩ := h
  obtain ⟨rfl, -⟩ := stepFor?_eq_some hbuild hstep
  obtain ⟨-, -, -, -, -, hlt⟩ := exists_accepts hbuild hstep
  exact (run_of_raises hbuild hs hlt hjournal hfree (.fingerprint hstep hlive hread hdiffers)).2.1

/-- Every other run acquits the history. -/
theorem acquits_run (hbuild : build baseline steps = .ok registry)
    (hgivesUp : ∀ step ∈ steps, ∀ e, step.GivesUp e → ∃ entity reason, e = .transform entity reason)
    (h : ∀ version, ¬registry.Misled config s version) : (registry.run config s).Acquits := by
  unfold run
  split
  · rintro e ⟨⟩
    rfl
  · split
    · rintro e ⟨⟩
      rfl
    · exact nofun
  next version hstamp =>
  have hs : s.stamped? = some version := Store.stamped?_of_readStamp hstamp
  change (registry.runFrom config version s).Acquits
  unfold runFrom
  split
  · rintro e ⟨⟩
    rfl
  split
  · next e hread =>
    obtain ⟨rfl, -⟩ := Store.readJournal_eq_error_iff.1 hread
    rintro e ⟨⟩
    rfl
  next journal hread =>
  split
  · rintro e ⟨⟩
    rfl
  next hfree =>
  split
  · exact nofun
  · have hstray : ¬registry.Stray version s := fun hstray =>
      h version ⟨hs, ⟨journal, hread, hfree⟩, hstray⟩
    exact acquits_walk hgivesUp hbuild _ _ _ hstray

/-- **Defects of histories and failures over stores.** A history that is refused is refused with a
defect of the history. Over a history that was accepted, whose transforms and revisions fail with
errors of their own, no stamp ends on such an error, whatever the store, and no run does unless it
is misled by the header of the store. A run that is misled always ends on an inconsistency of the
schema, which counts as a defect of the history. -/
theorem isBuildError_of_misled (baseline : Schema) (steps : List Step) :
    (∀ e, build baseline steps = .error e → e.isBuildError = true) ∧
    ∀ registry, build baseline steps = .ok registry →
      (∀ step ∈ steps, ∀ e, step.GivesUp e → ∃ entity reason, e = .transform entity reason) →
      (∀ version s e, registry.stamp version s = .error e → e.isBuildError = false) ∧
      ∀ config s,
        (∀ e, (registry.run config s).outcome = .error e →
          (∀ version, ¬registry.Misled config s version) → e.isBuildError = false) ∧
        ∀ version, registry.Misled config s version →
          (registry.run config s).outcome = .error (.schemaInconsistency version "live schema"
            "stored schema does not match the registry at this version") := by
  refine ⟨fun e herror => ?_, fun registry hbuild hgivesUp => ⟨fun version s e herror => ?_,
    fun config s => ⟨fun e herror hnot => ?_, fun version hmisled => ?_⟩⟩⟩
  · obtain ⟨step, -, hblamed⟩ := exists_blamed_of_build_error herror
    rw [e.isBuildError_eq_isSome, hblamed]
    rfl
  · exact isBuildError_of_stamp_error herror
  · exact acquits_run hbuild hgivesUp hnot e herror
  · exact hmisled.outcome_eq hbuild

/-- The steps of a history with a gap never give up. -/
theorem not_givesUp_of_mem_gapped {step : Step} (hstep : step ∈ gapped) {e : MigrationError} :
    ¬step.GivesUp e := by
  have hplain : step.transforms = [] ∧ step.revision? = none := by
    rcases List.mem_cons.1 hstep with rfl | hstep
    · exact ⟨rfl, rfl⟩
    · cases List.mem_singleton.1 hstep
      exact ⟨rfl, rfl⟩
  rintro (⟨hdeclared, -⟩ | ⟨hdeclared, -⟩)
  · rw [hplain.1] at hdeclared
    cases hdeclared
  · rw [hplain.2] at hdeclared
    cases hdeclared

/-- Two steps from one version are a defect of the history; a gap that a run meets is not, nor is the
byte `ff` where the fingerprint was. -/
theorem isBuildError_of_misled_gapped :
    (∃ e, build (.empty 0) (gapped ++ gapped) = .error e ∧ e.isBuildError = true) ∧
    ∃ registry e garbled e', build (.empty 0) gapped = .ok registry ∧
      (∀ version, ¬registry.Misled .standard atFirst version) ∧
      (registry.run .standard atFirst).outcome = .error e ∧ e.isBuildError = false ∧
      garbled = { atFirst with fingerprint? := some [0xff] } ∧
      (registry.run .standard garbled).outcome = .error e' ∧ e'.isBuildError = false := by
  have hrefused : build (.empty 0) (gapped ++ gapped) = .error (.duplicateVersion 0) := rfl
  refine ⟨⟨_, hrefused, (isBuildError_of_misled _ _).1 _ hrefused⟩, ?_⟩
  obtain ⟨registry, s₁, s₂, hbuild, hcurrent, hschema, hrun⟩ := exists_run_gapped
  have hnot : ∀ version, ¬registry.Misled .standard atFirst version := by
    rintro version ⟨hs, -, hstray⟩
    cases hs
    exact not_stray_of_fingerprint hschema rfl hstray
  have houtcome : (registry.run .standard atFirst).outcome = .error (.missingStep 1) :=
    congrArg Run.outcome hrun
  have hgivesUp : ∀ step ∈ gapped, ∀ e, step.GivesUp e →
      ∃ entity reason, e = .transform entity reason := by
    intro step hstep e hgives
    exact absurd hgives (not_givesUp_of_mem_gapped hstep)
  obtain ⟨-, hruns⟩ := (isBuildError_of_misled _ _).2 registry hbuild hgivesUp
  -- The run over the other store gets as far as the fingerprint.
  obtain ⟨_, step, hbuild', hstep⟩ : ∃ registry step, build (.empty 0) gapped = .ok registry ∧
      registry.stepFor? 0 = some step := ⟨_, _, rfl, rfl⟩
  rw [hbuild] at hbuild'
  cases hbuild'
  let garbled : Store := { atFirst with fingerprint? := some [0xff] }
  have hlt : 0 < registry.currentVersion := by
    rw [hcurrent]
    decide
  have hraises : Raises registry RunConfig.standard.pass 0 garbled _ garbled.rows :=
    .unreadable hstep rfl
  obtain ⟨-, houtcome', -⟩ := run_of_raises hbuild rfl hlt rfl rfl hraises
  have hnot' : ∀ version, ¬registry.Misled .standard garbled version := by
    rintro version ⟨-, -, -, live, stored, -, hread, -⟩
    cases hread
  exact ⟨registry, _, garbled, _, hbuild, hnot, houtcome,
    (hruns .standard atFirst).1 _ houtcome hnot, rfl, houtcome',
    (hruns .standard garbled).1 _ houtcome' hnot'⟩

/-- A version that was written into the header of a store without a schema misleads a run: it ends
on what counts as a defect of the history. -/
theorem exists_run_error_isBuildError :
    ∃ registry s e, build (.empty 0) gapped = .ok registry ∧
      (∀ step ∈ gapped, ∀ e, ¬step.GivesUp e) ∧
      s = Store.empty.commit (Transaction.empty.stamp 0) ∧
      (registry.run .standard s).outcome = .error e ∧ e.isBuildError = true := by
  obtain ⟨registry, step, hbuild, hschema, hstep⟩ : ∃ registry step,
      build (.empty 0) gapped = .ok registry ∧ registry.schemaAt? 0 = some (.empty 0) ∧
        registry.stepFor? 0 = some step := ⟨_, _, rfl, rfl, rfl⟩
  have hmisled : registry.Misled .standard (Store.empty.commit (Transaction.empty.stamp 0)) 0 :=
    ⟨rfl, ⟨none, rfl, rfl⟩, ⟨step, hstep⟩, _, none, hschema, rfl, nofun⟩
  exact ⟨registry, _, _, hbuild, fun step hstep e => not_givesUp_of_mem_gapped hstep, rfl,
    hmisled.outcome_eq hbuild, rfl⟩

end Registry

end Strata
