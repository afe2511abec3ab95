import Strata.Proofs.Drafts
import Strata.Proofs.History
import Strata.Proofs.Passes
import Strata.Proofs.StoredRecords
import Strata.Run.Plan

/-!
# The drafts of plans

The draft of a step covers it (`Step.Covers`): every table that the step empties or edits is
touched, only tables of the next schema are, and a table that is not emptied keeps its keys. The
clears and edits give such a draft (`Step.covers_edited`), and the transform and the inserts extend
it, so the draft that a plan is made of covers the step (`Step.covers_of_plan`).
-/

namespace Strata

/-! ## Clears and edits -/

namespace Draft

/-- Clearing tables empties them, and nothing else. -/
theorem table_foldl_clear (clears : List String) (d : Draft) (name : String) :
    (clears.foldl clear d).table name = if name ∈ clears then ∅ else d.table name := by
  induction clears generalizing d with
  | nil => rfl
  | cons other rest ih =>
    have hclear : (d.clear other).table name = if other = name then ∅ else d.table name :=
      table_withTable d other name ∅
    rw [List.foldl_cons, ih, hclear]
    by_cases hrest : name ∈ rest
    · rw [if_pos hrest, if_pos (List.mem_cons_of_mem other hrest)]
    · by_cases heq : other = name
      · subst heq
        rw [if_neg hrest, if_pos rfl, if_pos List.mem_cons_self]
      · rw [if_neg hrest, if_neg heq, if_neg]
        rw [List.mem_cons, not_or]
        exact ⟨Ne.symm heq, hrest⟩

/-- Clearing tables touches and marks them, and no others. -/
theorem foldl_clear (clears : List String) (d : Draft) :
    (clears.foldl clear d).snapshot = d.snapshot ∧
      (∀ name, (clears.foldl clear d).Touched name ↔ name ∈ clears ∨ d.Touched name) ∧
      ∀ name, name ∈ (clears.foldl clear d).cleared ↔ name ∈ clears ∨ name ∈ d.cleared := by
  induction clears generalizing d with
  | nil => simp
  | cons other rest ih =>
    obtain ⟨hsnapshot, htouched, hcleared⟩ := ih (d.clear other)
    refine ⟨hsnapshot, fun name => ?_, fun name => ?_⟩
    · have hclear : (d.clear other).Touched name ↔ other = name ∨ d.Touched name :=
        touched_withTable
      rw [List.foldl_cons, htouched, hclear, List.mem_cons, or_left_comm, or_assoc,
        eq_comm (a := other)]
    · have hclear : name ∈ (d.clear other).cleared ↔ other = name ∨ name ∈ d.cleared := by
        unfold clear
        rw [Std.ExtTreeSet.mem_insert, Std.LawfulEqCmp.compare_eq_iff_eq]
      rw [List.foldl_cons, hcleared, hclear, List.mem_cons, or_left_comm, or_assoc,
        eq_comm (a := other)]

/-- An edit changes the records of its entity, and nothing else. -/
theorem getElem?_table_applyEdit (d : Draft) (edit : Edit) (name : String) (key : Key) :
    ((d.applyEdit edit).table name)[key]? =
      ((d.table name)[key]?).map fun r =>
        if edit.entity = name then edit.applyToRecord r else r := by
  unfold applyEdit
  split
  · rw [table_withTable]
    split
    · next heq =>
      subst heq
      exact Std.ExtTreeMap.getElem?_map
    · exact Option.map_id'.symm
  · next htouch =>
    -- Only the creation of a table leaves records alone.
    have hrecord : ∀ r, edit.applyToRecord r = r := by
      intro r
      cases edit with
      | createTable => rfl
      | addField | removeField | addReference => exact absurd rfl htouch
    simp only [hrecord, ite_self]
    exact Option.map_id'.symm

/-- Edits one after the other change each record by the edits of its entity. -/
theorem getElem?_table_foldl_applyEdit (edits : List Edit) (d : Draft) (name : String)
    (key : Key) :
    ((edits.foldl applyEdit d).table name)[key]? =
      ((d.table name)[key]?).map (Edit.applyAllToRecord edits name) := by
  induction edits generalizing d with
  | nil => exact Option.map_id'.symm
  | cons edit rest ih =>
    rw [List.foldl_cons, ih, getElem?_table_applyEdit, Option.map_map]
    refine congrArg (fun f => ((d.table name)[key]?).map f) (funext fun r => ?_)
    unfold Edit.applyAllToRecord
    rw [List.filter_cons, Function.comp_apply]
    by_cases heq : edit.entity = name
    · rw [if_pos heq, if_pos (beq_iff_eq.2 heq), List.foldl_cons]
    · rw [if_neg heq, if_neg fun h => heq (beq_iff_eq.1 h)]

end Draft

/-- An edit keeps the key of a record. -/
@[simp] theorem Edit.key_applyToRecord (edit : Edit) (r : Record) :
    (edit.applyToRecord r).key = r.key := by
  cases edit with
  | addField name f | addReference name f =>
    unfold applyToRecord
    dsimp only
    cases f.effectiveDefault? <;> rfl
  | removeField | createTable => rfl

/-- Edits keep the key of a record. -/
@[simp] theorem Edit.key_applyAllToRecord (edits : List Edit) (name : String) (r : Record) :
    (applyAllToRecord edits name r).key = r.key := by
  unfold applyAllToRecord
  induction edits.filter (fun edit => edit.entity == name) generalizing r with
  | nil => rfl
  | cons edit rest ih => rw [List.foldl_cons, ih, key_applyToRecord]

namespace Draft

variable {d : Draft} {next : Schema}

/-- An edit of an entity of the next schema extends a draft. -/
theorem extends_applyEdit {edit : Edit} (hhas : next.hasEntity edit.entity = true) :
    Extends next d (d.applyEdit edit) := by
  unfold applyEdit
  split
  · refine extends_withTable hhas (fun key h => ?_) fun h =>
      h.map fun _ r => edit.key_applyToRecord r
    rw [Std.ExtTreeMap.contains_map]
    exact h
  · exact .refl next d

/-- Edits of entities of the next schema extend a draft, and touch the tables whose records they
change. -/
theorem extends_foldl_applyEdit (d : Draft) {edits : List Edit}
    (hhas : ∀ edit ∈ edits, next.hasEntity edit.entity = true) :
    Extends next d (edits.foldl applyEdit d) ∧
      ∀ edit ∈ edits, edit.touchesRecords = true →
        (edits.foldl applyEdit d).Touched edit.entity := by
  induction edits generalizing d with
  | nil => exact ⟨.refl next d, fun _ hmem => (by cases hmem)⟩
  | cons edit rest ih =>
    have hfirst : Extends next d (d.applyEdit edit) :=
      extends_applyEdit (hhas edit List.mem_cons_self)
    obtain ⟨hrest, htouched⟩ :=
      ih (d.applyEdit edit) fun edit' hmem => hhas edit' (List.mem_cons_of_mem edit hmem)
    refine ⟨hfirst.trans hrest, fun edit' hmem htouch => ?_⟩
    rcases List.mem_cons.1 hmem with rfl | hmem
    · refine hrest.touched _ ?_
      unfold applyEdit
      rw [if_pos htouch]
      exact touched_withTable.2 (.inl rfl)
    · exact htouched edit' hmem htouch

end Draft

namespace Step

/-- A draft of a step has touched all that the clears and the edits change, and nothing that is
unknown to the next schema. -/
structure Covers (step : Step) (next : Schema) (before : Snapshot) (d : Draft) : Prop where
  /-- The draft is one over the snapshot. -/
  snapshot : d.snapshot = before
  /-- The tables that the step empties are marked. -/
  cleared : ∀ name, name ∈ d.cleared ↔ name ∈ step.clears
  /-- The tables that the step empties are touched. -/
  clears : ∀ name ∈ step.clears, d.Touched name
  /-- The tables that the step edits are touched. -/
  edits : ∀ edit ∈ step.edits, edit.touchesRecords = true → d.Touched edit.entity
  /-- Only tables of the next schema are touched. -/
  known : ∀ name, d.Touched name → next.hasEntity name = true
  /-- A table that is not emptied keeps its keys. -/
  kept : ∀ name ∉ step.clears, ∀ key, (before.table name).contains key = true →
    (d.table name).contains key = true
  /-- Every record is under its own key. -/
  keyed : ∀ name, (d.table name).Keyed

variable {step : Step} {live next : Schema} {snapshot : Snapshot} {d d' : Draft}

/-- A draft that covers a step does so when it is extended. -/
theorem Covers.extends (h : Covers step next snapshot d) (hext : d.Extends next d') :
    Covers step next snapshot d' where
  snapshot := hext.snapshot.trans h.snapshot
  cleared name := by rw [hext.cleared, h.cleared]
  clears name hmem := hext.touched name (h.clears name hmem)
  edits edit hmem htouch := hext.touched _ (h.edits edit hmem htouch)
  known name ht := by
    rcases hext.known name ht with ht | hhas
    · exact h.known name ht
    · exact hhas
  kept name hnot key hkey := hext.keys name key (h.kept name hnot key hkey)
  keyed := hext.keyed h.keyed

/-- What the tables hold after the clears and the edits of a step. -/
theorem getElem?_table_edited (step : Step) (snapshot : Snapshot) (name : String) (key : Key) :
    ((step.edited snapshot).table name)[key]? =
      ((if name ∈ step.clears then ∅ else snapshot.table name)[key]?).map
        (Edit.applyAllToRecord step.edits name) := by
  have hstart : (Draft.ofSnapshot snapshot).table name = snapshot.table name := by
    unfold Draft.ofSnapshot Draft.table
    simp
  unfold edited
  rw [Draft.getElem?_table_foldl_applyEdit, Draft.table_foldl_clear, hstart]

/-- The clears and the edits of an accepted step give a draft that covers it. -/
theorem covers_edited (h : Registry.Accepts live step next) (version : Nat)
    (hkeyed : ∀ name, (snapshot.table name).Keyed) :
    Covers step (Registry.atVersion next version) snapshot (step.edited snapshot) := by
  have hstart : ∀ name, ¬(Draft.ofSnapshot snapshot).Touched name := by
    intro name
    unfold Draft.Touched Draft.ofSnapshot
    simp
  have htable : ∀ name, (Draft.ofSnapshot snapshot).table name = snapshot.table name := by
    intro name
    exact Draft.table_of_not_touched (hstart name)
  -- The clears come first; the edits then extend the draft that they leave.
  obtain ⟨hsnapshot, htouched, hcleared⟩ :=
    Draft.foldl_clear step.clears (Draft.ofSnapshot snapshot)
  have hknown : ∀ edit ∈ step.edits,
      (Registry.atVersion next version).hasEntity edit.entity = true :=
    fun edit hmem => Edit.applyAll_hasEntity_of_mem h.edits hmem
  obtain ⟨hext, hedits⟩ := Draft.extends_foldl_applyEdit
    (step.clears.foldl Draft.clear (.ofSnapshot snapshot)) hknown
  refine ⟨hext.snapshot.trans hsnapshot, fun name => ?_, fun name hmem => ?_, hedits,
    fun name ht => ?_, fun name hnot key hkey => ?_, hext.keyed fun name => ?_⟩
  · change name ∈ (step.edits.foldl Draft.applyEdit _).cleared ↔ _
    rw [hext.cleared, hcleared]
    exact or_iff_left Std.ExtTreeSet.not_mem_empty
  · exact hext.touched name ((htouched name).2 (.inl hmem))
  · rcases hext.known name ht with ht | hhas
    · rcases (htouched name).1 ht with hmem | ht
      · exact Edit.applyAll_hasEntity h.edits (h.clears name hmem)
      · exact absurd ht (hstart name)
    · exact hhas
  · refine hext.keys name key ?_
    rw [Draft.table_foldl_clear, if_neg hnot, htable]
    exact hkey
  · rw [Draft.table_foldl_clear]
    split
    · exact Table.keyed_empty
    · rw [htable]
      exact hkeyed name

/-! ## Transforms -/

variable {name : String} {rows rows' : RowCounter} {outputs : List (Key × Transform.Output)}

/-- What holds before outputs are settled, and is handed on by each that is, holds after all. -/
theorem settle_induct (motive : List (Key × Transform.Output) → Draft → RowCounter → Prop)
    (step : ∀ output rest d rows d' dropped rows',
      motive ((output.record.key, output) :: rest) d rows →
      ((d.put name output.record).emitAll next output.emitted).run.run rows =
        (.ok (d', dropped), rows') → motive rest d' rows')
    {dropped : Nat} (h0 : motive outputs d rows)
    (h : (settle next name d outputs).run.run rows = (.ok (d', dropped), rows')) :
    motive [] d' rows' := by
  refine Drawing.foldlM_induct (fun rest (state : Draft × Nat) rows => motive rest state.1 rows) ?_
    h0 h
  rintro ⟨key, output⟩ rest ⟨d₁, n⟩ rows₁ ⟨d₂, n'⟩ rows₂ hd hstep
  dsimp only at hstep
  split at hstep
  · obtain ⟨_, _, hthrow, -⟩ := Drawing.bind_ok_iff.1 hstep
    cases hthrow
  next hkey =>
  obtain rfl := Decidable.not_not.1 hkey
  obtain ⟨⟨d₃, more⟩, rows₃, hemit, hpure⟩ := Drawing.bind_ok_iff.1 hstep
  obtain ⟨hpair, rfl⟩ := Drawing.pure_ok_iff.1 hpure
  cases hpair
  exact step output rest d₁ rows₁ _ more _ hd hemit

/-- Settling outputs extends a draft, and all their keys are in the table afterwards. -/
theorem extends_settle (hhas : next.hasEntity name = true) {dropped : Nat}
    (h : (settle next name d outputs).run.run rows = (.ok (d', dropped), rows')) :
    d.Extends next d' ∧ ∀ p ∈ outputs, (d'.table name).contains p.1 = true := by
  -- Every key is in the table already, or that of an output still to be settled.
  let motive (rest : List (Key × Transform.Output)) (d' : Draft) (_ : RowCounter) : Prop :=
    d.Extends next d' ∧ ∀ p ∈ outputs, p ∈ rest ∨ (d'.table name).contains p.1 = true
  have hend : motive [] d' rows' := by
    refine settle_induct motive ?_ ⟨.refl next d, fun p hp => .inl hp⟩ h
    rintro output rest d₁ rows₁ d₂ n rows₂ ⟨hd, hkeys⟩ hemit
    have hput : d₁.Extends next (d₁.put name output.record) := Draft.extends_put hhas _
    have hemitted := Draft.extends_emitAll hemit
    refine ⟨(hd.trans hput).trans hemitted, fun p hp => ?_⟩
    rcases hkeys p hp with hmem | hkey
    · rcases List.mem_cons.1 hmem with rfl | hmem
      · refine .inr (hemitted.keys name _ ?_)
        rw [contains_eq_isSome, Draft.getElem?_table_put, if_pos ⟨rfl, rfl⟩]
        rfl
      · exact .inl hmem
    · exact .inr ((hput.trans hemitted).keys name _ hkey)
  refine ⟨hend.1, fun p hp => ?_⟩
  rcases hend.2 p hp with hmem | hkey
  · cases hmem
  · exact hkey

/-- A transform that succeeds settles the outputs of all records over the emptied table. It counts
the records, and as fallbacks those that were taken and the emitted records that were dropped. -/
theorem exists_outputs_of_transformed {config : PassConfig} {count fallbacks : Nat} {t : Transform}
    (ht : step.transform? = some (name, t))
    (h : (step.transformed next config d).run.run rows = (.ok (d', count, fallbacks), rows')) :
    ∃ outputs dropped,
      List.Forall₂ (fun r output => t r ⟨d.snapshot, name⟩ = .ok output)
        (d.table name).values outputs ∧
      (settle next name (d.withTable name ∅)
        (((d.table name).values.map (·.key)).zip outputs)).run.run rows =
          (.ok (d', dropped), rows') ∧
      count = (d.table name).values.length ∧
      fallbacks = Transform.totalFallbacks outputs + dropped := by
  unfold transformed at h
  rw [ht] at h
  dsimp only at h
  rw [Transform.runPass_eq_applyAll] at h
  cases houtputs : t.applyAll ⟨d.snapshot, name⟩ (d.table name).values with
  | error e =>
    rw [houtputs] at h
    cases h
  | ok outputs =>
    rw [houtputs] at h
    obtain ⟨⟨d₁, dropped⟩, rows₁, hsettle, hpure⟩ := Drawing.bind_ok_iff.1 h
    obtain ⟨hpair, rfl⟩ := Drawing.pure_ok_iff.1 hpure
    cases hpair
    exact ⟨outputs, dropped, Transform.applyAll_eq_ok_iff.1 houtputs, hsettle, rfl, rfl⟩

/-- A pass that succeeds has no transform to run, or settles the outputs of all records over the
emptied table. -/
theorem transformed_ok_cases {config : PassConfig} {count fallbacks : Nat}
    (h : (step.transformed next config d).run.run rows = (.ok (d', count, fallbacks), rows')) :
    (step.transform? = none ∧ d' = d ∧ rows' = rows) ∨
      ∃ name t outputs dropped, step.transform? = some (name, t) ∧
        List.Forall₂ (fun r output => t r ⟨d.snapshot, name⟩ = .ok output)
          (d.table name).values outputs ∧
        (settle next name (d.withTable name ∅)
          (((d.table name).values.map (·.key)).zip outputs)).run.run rows =
            (.ok (d', dropped), rows') := by
  cases htransform : step.transform? with
  | none =>
    unfold transformed at h
    rw [htransform] at h
    obtain ⟨hpair, rfl⟩ := Drawing.pure_ok_iff.1 h
    cases hpair
    exact .inl ⟨rfl, rfl, rfl⟩
  | some p =>
    obtain ⟨outputs, dropped, hall, hsettle, -⟩ := exists_outputs_of_transformed htransform h
    exact .inr ⟨p.1, p.2, outputs, dropped, rfl, hall, hsettle⟩

/-- The transform of a step extends a draft: a record that went through it keeps its key. -/
theorem extends_transformed {config : PassConfig} {count fallbacks : Nat}
    (hhas : ∀ name t, step.transform? = some (name, t) → next.hasEntity name = true)
    (hkeyed : ∀ name, (d.table name).Keyed)
    (h : (step.transformed next config d).run.run rows = (.ok (d', count, fallbacks), rows')) :
    d.Extends next d' := by
  rcases transformed_ok_cases h with ⟨-, rfl, -⟩ | ⟨name, t, outputs, dropped, ht, hall, hsettle⟩
  · exact .refl next _
  obtain ⟨hext, hkeys⟩ := extends_settle (hhas name t ht) hsettle
  refine ⟨hext.snapshot, hext.cleared, fun other h => ?_, fun other h => ?_,
    fun other key h => ?_, fun h => hext.keyed fun other => ?_⟩
  · exact hext.touched other (Draft.touched_withTable.2 (.inr h))
  · rcases hext.known other h with h | hknown
    · rcases Draft.touched_withTable.1 h with rfl | h
      · exact .inr (hhas name t ht)
      · exact .inl h
    · exact .inr hknown
  · by_cases heq : name = other
    · subst heq
      -- The record of the key has an output, and settling put it back.
      rw [contains_eq_isSome] at h
      obtain ⟨r, hr⟩ := Option.isSome_iff_exists.1 h
      have hmem : key ∈ (d.table name).values.map (·.key) :=
        List.mem_map.2 ⟨r, mem_values_iff.2 ⟨key, hr⟩, hkeyed name key r hr⟩
      have hlength : ((d.table name).values.map (·.key)).length = outputs.length := by
        rw [List.length_map]
        exact hall.length_eq
      rw [← List.map_fst_zip (Nat.le_of_eq hlength)] at hmem
      obtain ⟨p, hp, rfl⟩ := List.mem_map.1 hmem
      exact hkeys p hp
    · refine hext.keys other key ?_
      rw [Draft.table_withTable, if_neg heq]
      exact h
  · rw [Draft.table_withTable]
    split
    · exact Table.keyed_empty
    · exact h other

/-! ## Whole plans -/

/-- What a plan commits besides the journal, once its draft and preference edits are known. -/
def transactionOf (step : Step) (next : Schema) (d : Draft)
    (edits : Std.ExtTreeMap String (Option Value)) : Transaction where
  writes := d.deletions ++ d.puts ++ edits.toList.map preferenceWrite
  schema? := some next
  version? := some step.target
  journal? := none

/-- A plan is found exactly when every phase succeeds, and it commits what the draft and the
preference edits amount to. -/
theorem exists_of_plan_ok {config : PassConfig} {s : Store} {plan : Plan}
    (h : (step.plan live next config s).run.run rows = (.ok plan, rows')) :
    ∃ d₁ count fallbacks rows₁ d edits,
      (step.transformed next config (step.edited (s.snapshot live))).run.run rows =
        (.ok (d₁, count, fallbacks), rows₁) ∧
      (d₁.addAll next step.inserts).run.run rows₁ = (.ok d, rows') ∧
      d.validate next (step.transform?.map (·.1)) = .ok () ∧
      step.preferenceEdits (s.snapshot live) s.preferences = .ok edits ∧
      plan.transaction = transactionOf step next d edits := by
  unfold Step.plan at h
  obtain ⟨⟨d₁, count, fallbacks⟩, rows₁, htransformed, h⟩ := Drawing.bind_ok_iff.1 h
  obtain ⟨d, rows₂, hadd, h⟩ := Drawing.bind_ok_iff.1 h
  split at h
  · cases h
  next hvalid =>
  split at h
  · cases h
  next edits hedits =>
  obtain ⟨rfl, rfl⟩ := Drawing.pure_ok_iff.1 h
  exact ⟨d₁, count, fallbacks, rows₁, d, edits, htransformed, hadd, hvalid, hedits, rfl⟩

/-- What a plan reports, once the phases that it went through are known. -/
theorem report_of_plan_ok {config : PassConfig} {s : Store} {plan : Plan} {d₁ : Draft}
    {count fallbacks : Nat} {rows₁ rows₂ : RowCounter}
    (h : (step.plan live next config s).run.run rows = (.ok plan, rows'))
    (htransformed : (step.transformed next config (step.edited (s.snapshot live))).run.run rows =
      (.ok (d₁, count, fallbacks), rows₁))
    (hadd : (d₁.addAll next step.inserts).run.run rows₁ = (.ok d, rows₂)) :
    plan.report.transformed = count ∧ plan.report.added = d.added ∧
      plan.report.written = d.puts.length ∧ plan.report.deleted = d.deletions.length ∧
      plan.report.fallbacks = fallbacks := by
  unfold Step.plan at h
  -- The phases are functions of the store, so these are the results that the plan goes on with.
  obtain ⟨_, rows₃, htransformed', h⟩ := Drawing.bind_ok_iff.1 h
  rw [htransformed] at htransformed'
  cases htransformed'
  obtain ⟨_, rows₄, hadd', h⟩ := Drawing.bind_ok_iff.1 h
  rw [hadd] at hadd'
  cases hadd'
  split at h
  · cases h
  split at h
  · cases h
  obtain ⟨rfl, -⟩ := Drawing.pure_ok_iff.1 h
  exact ⟨rfl, rfl, rfl, rfl, rfl⟩

/-- The draft of a plan covers its step. -/
theorem covers_of_plan {config : PassConfig} {s : Store}
    (haccepts : Registry.Accepts live step next) {version : Nat} {d₁ : Draft}
    {count fallbacks : Nat} {rows₁ : RowCounter}
    (htransformed : (step.transformed (Registry.atVersion next version) config
      (step.edited (s.snapshot live))).run.run rows = (.ok (d₁, count, fallbacks), rows₁))
    (hadd : (d₁.addAll (Registry.atVersion next version) step.inserts).run.run rows₁ =
      (.ok d, rows')) :
    Covers step (Registry.atVersion next version) (s.snapshot live) d := by
  have hedited := covers_edited haccepts version (s.keyed_table_snapshot live)
  have htransform : Draft.Extends (Registry.atVersion next version) _ d₁ :=
    extends_transformed haccepts.transform hedited.keyed htransformed
  exact hedited.extends (htransform.trans (Draft.extends_addAll hadd))

end Step

end Strata
