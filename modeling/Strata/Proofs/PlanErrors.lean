import Strata.Proofs.Plans

/-!
# Errors of plans

A plan fails because of a record, because a transform or a revision gives up, or because the row
numbers are used up. While a transform that accepts every record is settled, only the first and the
last can happen (`Step.refusesRecord_of_transformed_error`). If the draft touches only tables of the
next schema there is no other way to fail (`Step.plan_error_cases`).
-/

namespace Strata

/-- Whether an error says that a store, or a step, does not agree with the schema. -/
def MigrationError.isMismatch : MigrationError → Bool
  | violations _ | schemaInconsistency .. => true
  | _ => false

/-- Whether an error refuses a record, or a row number for it. -/
def MigrationError.refusesRecord : MigrationError → Bool
  | invalidRecord .. | storage .rowsExhausted => true
  | _ => false

/-- Whether an error finds fault with a record, or has no row number for it. -/
def MigrationError.faultsRecord : MigrationError → Bool
  | incompleteTransform .. => true
  | e => e.refusesRecord

/-- An error that the transform or the revision of a step fails with. -/
inductive Step.GivesUp (step : Step) (e : MigrationError) : Prop
  /-- A transform fails on a record. -/
  | transform {name : String} {t : Transform} {r : Record} {cx : Transform.Context}
      (declared : (name, t) ∈ step.transforms) (fails : t r cx = .error e)
  /-- The revision fails. -/
  | revision {revision : Revision} {snapshot : Snapshot} {edits : PreferenceEdits}
      (declared : step.revision? = some revision) (fails : revision snapshot edits = .error e)

variable {d : Draft} {next : Schema} {rows rows' : RowCounter} {e : MigrationError}

/-- A record that is refused is at fault. -/
theorem MigrationError.faultsRecord_of_refusesRecord (h : e.refusesRecord = true) :
    e.faultsRecord = true := by
  unfold faultsRecord
  split
  · rfl
  · exact h

/-- A fault of a record is no mismatch with the schema. -/
theorem MigrationError.isMismatch_of_faultsRecord (h : e.faultsRecord = true) :
    e.isMismatch = false := by
  cases e with
  | violations | schemaInconsistency => cases h
  | _ => rfl

/-- What refuses a record is an invalid record, or that no row number is left. -/
theorem MigrationError.cases_of_refusesRecord (h : e.refusesRecord = true) :
    (∃ entity key reason, e = .invalidRecord entity key reason) ∨ e = .storage .rowsExhausted := by
  unfold refusesRecord at h
  split at h
  · exact .inl ⟨_, _, _, rfl⟩
  · exact .inr rfl
  · cases h

namespace Draft

/-- A row number is refused only because none is left. -/
theorem refusesRecord_of_row_error (h : Drawing.row.run.run rows = (.error e, rows')) :
    e.refusesRecord = true := by
  cases hdraw : rows.draw? with
  | none =>
    rw [Drawing.row_of_draw?_none hdraw] at h
    cases h
    rfl
  | some p =>
    rw [Drawing.row_of_draw?_some hdraw] at h
    cases h

/-- A key that is taken is refused as a defect of the record. -/
theorem refusesRecord_of_addKeyed_error {name : String} {r : Record}
    (h : d.addKeyed name r = .error e) : e.refusesRecord = true := by
  unfold addKeyed at h
  split at h
  · cases h
    rfl
  · cases h

/-- A record that is refused is refused for a defect of its own. -/
theorem refusesRecord_of_add_error {name : String} {r : Record}
    (h : (d.add next name r).run.run rows = (.error e, rows')) : e.refusesRecord = true := by
  unfold add at h
  split at h
  · cases h
    rfl
  · split at h
    · exact refusesRecord_of_addKeyed_error (Prod.mk.inj (run_liftExcept _ rows ▸ h)).1
    · rcases Drawing.bind_error_iff.1 h with h | ⟨n, rows₁, -, h⟩
      · exact refusesRecord_of_row_error h
      · exact refusesRecord_of_addKeyed_error (Prod.mk.inj (run_liftExcept _ rows₁ ▸ h)).1

/-- An emitted record that is refused is refused for a defect of its own. -/
theorem refusesRecord_of_emit_error {name : String} {r : Record}
    (h : (d.emit next name r).run.run rows = (.error e, rows')) : e.refusesRecord = true := by
  unfold emit at h
  split at h
  · split at h
    · cases h
    · rcases Drawing.bind_error_iff.1 h with h | ⟨_, _, -, h⟩
      · exact refusesRecord_of_add_error h
      · cases h
  · rcases Drawing.bind_error_iff.1 h with h | ⟨_, _, -, h⟩
    · exact refusesRecord_of_add_error h
    · cases h

/-- Emitted records that are refused are refused for a defect of one of them. -/
theorem refusesRecord_of_emitAll_error {emitted : List (String × Record)}
    (h : (emitAll next d emitted).run.run rows = (.error e, rows')) : e.refusesRecord = true := by
  obtain ⟨⟨name, r⟩, -, ⟨d₁, n⟩, rows₁, hstep⟩ := Drawing.exists_of_foldlM_error h
  rcases Drawing.bind_error_iff.1 hstep with hemit | ⟨_, _, -, hpure⟩
  · exact refusesRecord_of_emit_error hemit
  · cases hpure

/-- A record that does not fit is at fault. -/
theorem faultsRecord_of_checkRecord_error {name : String} {entity : Entity}
    {transformed : Option String} {r : Record}
    (h : checkRecord name entity transformed r = .error e) : e.faultsRecord = true := by
  unfold checkRecord at h
  split at h
  · cases h
  · next issue _ _ =>
    cases h
    unfold issueError
    cases issue with
    | missingField | nullRequired =>
      dsimp only
      split <;> rfl
    | typeMismatch | unknownField | keyMismatch => rfl

/-- A draft that touches only tables of the schema is refused because of a record. -/
theorem faultsRecord_of_validate_error {transformed : Option String}
    (hknown : ∀ name, d.Touched name → next.hasEntity name = true)
    (h : d.validate next transformed = .error e) : e.faultsRecord = true := by
  obtain ⟨⟨name, t⟩, hmem, hcheck⟩ := exists_of_forM_eq_error h
  rw [Std.ExtTreeMap.mem_toList_iff_getElem?_eq_some] at hmem
  have htouched : d.Touched name := by
    unfold Touched
    rw [contains_eq_isSome, hmem]
    rfl
  obtain ⟨entity, hentity⟩ := Schema.exists_entity? (hknown name htouched)
  unfold checkTable at hcheck
  dsimp only at hcheck
  rw [hentity] at hcheck
  obtain ⟨r, -, hr⟩ := exists_of_forM_eq_error hcheck
  exact faultsRecord_of_checkRecord_error hr

end Draft

namespace Step

variable {step : Step} {live : Schema} {config : PassConfig}

/-- Outputs that are refused are refused for a defect of a record. -/
theorem refusesRecord_of_settle_error {name : String} {outputs : List (Key × Transform.Output)}
    (h : (settle next name d outputs).run.run rows = (.error e, rows')) :
    e.refusesRecord = true := by
  obtain ⟨⟨key, output⟩, -, ⟨d₁, n⟩, rows₁, hstep⟩ := Drawing.exists_of_foldlM_error h
  dsimp only at hstep
  split at hstep
  · rcases Drawing.bind_error_iff.1 hstep with hthrow | ⟨_, _, hthrow, -⟩
    · cases hthrow
      rfl
    · cases hthrow
  · rcases Drawing.bind_error_iff.1 hstep with hemit | ⟨_, _, -, hpure⟩
    · exact Draft.refusesRecord_of_emitAll_error hemit
    · cases hpure

/-- The transform of a step fails because it gives up, or because a record is refused. -/
theorem transformed_error_cases
    (h : (step.transformed next config d).run.run rows = (.error e, rows')) :
    step.GivesUp e ∨ e.refusesRecord = true := by
  unfold transformed at h
  split at h
  · cases h
  · next name t ht =>
    dsimp only at h
    rw [Transform.runPass_eq_applyAll] at h
    split at h
    · next e' hall =>
      cases h
      obtain ⟨r, -, hr⟩ := Transform.exists_of_applyAll_eq_error hall
      exact .inl (.transform (List.mem_of_mem_head? ht) hr)
    · rcases Drawing.bind_error_iff.1 h with h | ⟨_, _, -, h⟩
      · exact .inr (refusesRecord_of_settle_error h)
      · cases h

/-- A transform that accepts every record of the draft fails only because a record is refused. -/
theorem refusesRecord_of_transformed_error
    (haccepts : ∀ name t, step.transform? = some (name, t) → ∀ r ∈ (d.table name).values,
      ∃ output, t r ⟨d.snapshot, name⟩ = .ok output)
    (h : (step.transformed next config d).run.run rows = (.error e, rows')) :
    e.refusesRecord = true := by
  unfold transformed at h
  split at h
  · cases h
  · next name t ht =>
    dsimp only at h
    rw [Transform.runPass_eq_applyAll] at h
    split at h
    · next e' hall =>
      obtain ⟨r, hr, herror⟩ := Transform.exists_of_applyAll_eq_error hall
      obtain ⟨output, hok⟩ := haccepts name t ht r hr
      rw [herror] at hok
      cases hok
    · rcases Drawing.bind_error_iff.1 h with h | ⟨_, _, -, h⟩
      · exact refusesRecord_of_settle_error h
      · cases h

/-- The preference edits of a step fail because its revision gives up. -/
theorem givesUp_of_preferenceEdits_error {snapshot : Snapshot} {current : Preferences}
    (h : step.preferenceEdits snapshot current = .error e) : step.GivesUp e := by
  unfold preferenceEdits at h
  split at h
  · cases h
  · next revision hr =>
    cases hrun : revision snapshot (.ofCurrent current) with
    | error e' =>
      rw [hrun] at h
      cases h
      exact .revision hr hrun
    | ok edits =>
      rw [hrun] at h
      cases h

/-- The plan of an accepted step fails because its transform or its revision gives up, or because a
record is at fault. -/
theorem plan_error_cases {s : Store} (haccepts : Registry.Accepts live step next) (version : Nat)
    (h : (step.plan live (Registry.atVersion next version) config s).run.run rows =
      (.error e, rows')) : step.GivesUp e ∨ e.faultsRecord = true := by
  unfold Step.plan at h
  rcases Drawing.bind_error_iff.1 h with h | ⟨⟨d₁, count, fallbacks⟩, rows₁, htransformed, h⟩
  · exact (transformed_error_cases h).imp_right MigrationError.faultsRecord_of_refusesRecord
  rcases Drawing.bind_error_iff.1 h with h | ⟨d, rows₂, hadd, h⟩
  · obtain ⟨⟨name, r⟩, -, d₂, rows₂, hstep⟩ := Drawing.exists_of_foldlM_error h
    exact .inr (MigrationError.faultsRecord_of_refusesRecord
      (Draft.refusesRecord_of_add_error hstep))
  -- The validation finds only defects of records: the draft touches no unknown table.
  have hcovers := covers_of_plan haccepts htransformed hadd
  split at h
  · next e' hvalid =>
    cases h
    exact .inr (Draft.faultsRecord_of_validate_error hcovers.known hvalid)
  · split at h
    · next e' hedits =>
      cases h
      exact .inl (givesUp_of_preferenceEdits_error hedits)
    · cases h

end Step

end Strata
