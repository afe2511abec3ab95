import Strata.Proofs.Emissions

/-!
# What a draft counts

A plan counts the records that it adds, and marks the tables that it touches, while it goes through
its phases: the edits count nothing, an emitted record is counted if it is kept, an inserted one
always. `Draft.Counts` says of two drafts which records were counted between them. It holds of every
phase and composes (`Draft.Counts.trans`), so a plan has counted what its transform and its inserts
did, and has touched the tables that they and its edits change (`Step.touched_of_plan`). The pass
itself counts the outputs of the transform and the fallbacks (`Step.counted_of_transformed`).
-/

namespace Strata

/-! ## What a draft counts and touches -/

namespace Draft

instance (d : Draft) (name : String) : Decidable (d.Touched name) :=
  inferInstanceAs (Decidable (_ = true))

/-- A draft has counted more records, and has touched their tables and no others. -/
structure Counts (d : Draft) (new : List (String × Record)) (d' : Draft) : Prop where
  /-- Each of the records is counted once. -/
  added : d'.added = d.added + new.length
  /-- Their tables are touched besides those that were. -/
  touched : ∀ name, d'.Touched name ↔ d.Touched name ∨ ∃ p ∈ new, p.1 = name

variable {next : Schema} {name : String} {d d' d'' : Draft} {rows rows' : RowCounter}

/-- Nothing counted. -/
theorem Counts.refl (d : Draft) : Counts d [] d := ⟨rfl, fun _ => by simp⟩

/-- Counting one list of records after another is counting both. -/
theorem Counts.trans {new new' : List (String × Record)} (h : Counts d new d')
    (h' : Counts d' new' d'') : Counts d (new ++ new') d'' := by
  refine ⟨?_, fun name => ?_⟩
  · rw [h'.added, h.added, List.length_append, Nat.add_assoc]
  · rw [h'.touched, h.touched, or_assoc]
    simp only [List.mem_append, or_and_right, exists_or]

/-- A record that is added is counted. -/
theorem counts_add {r : Record} (h : (d.add next name r).run.run rows = (.ok d', rows')) :
    Counts d [(name, r)] d' := by
  obtain ⟨e, r', -, -, hadd⟩ := add_ok_iff.1 h
  obtain ⟨-, rfl⟩ := addKeyed_eq_ok_iff.1 hadd
  refine ⟨rfl, fun other => ?_⟩
  have hput : (d.put name r').Touched other ↔ name = other ∨ d.Touched other := touched_withTable
  simp only [List.mem_singleton, exists_eq_left]
  exact hput.trans or_comm

/-- Inserted records are all counted. -/
theorem counts_addAll {inserts : List (String × Record)}
    (h : (d.addAll next inserts).run.run rows = (.ok d', rows')) : Counts d inserts d' := by
  let motive (rest : List (String × Record)) (d' : Draft) (_ : RowCounter) : Prop :=
    ∃ done, inserts = done ++ rest ∧ Counts d done d'
  have hstep : ∀ p rest d₁ rows₁ d₂ rows₂, motive (p :: rest) d₁ rows₁ →
      (d₁.add next p.1 p.2).run.run rows₁ = (.ok d₂, rows₂) → motive rest d₂ rows₂ := by
    rintro p rest d₁ rows₁ d₂ rows₂ ⟨done, hdone, hcounts⟩ hadd
    exact ⟨done ++ [p], by simp [hdone], hcounts.trans (counts_add hadd)⟩
  obtain ⟨done, hdone, hcounts⟩ := Drawing.foldlM_induct motive hstep ⟨[], rfl, .refl d⟩ h
  rw [List.append_nil] at hdone
  rw [hdone]
  exact hcounts

/-- An emitted record is counted if it is kept. -/
theorem counts_emit {r : Record} {kept : Bool}
    (h : (d.emit next name r).run.run rows = (.ok (d', kept), rows')) :
    Counts d (firsts next d.emitted [(name, r)]) d' := by
  rw [firsts_of_emit h]
  rcases emit_ok_cases h with ⟨-, -, rfl, rfl, -⟩ | ⟨d₁, hadd, rfl, -, rfl⟩
  · exact .refl _
  · -- Noting the key changes neither the count nor the tables.
    have hcounts := counts_add hadd
    rw [if_pos rfl]
    split
    · exact ⟨hcounts.added, hcounts.touched⟩
    · exact hcounts

/-- Settled outputs are counted by the emitted records that are kept: the table that the records are
put back into was touched before. -/
theorem Settles.counts {actions : List Action} {dropped : Nat}
    (h : Settles next name d rows actions d' rows' dropped) (hname : d.Touched name) :
    Counts d (firsts next d.emitted (actions.filterMap Action.emit?)) d' := by
  induction h with
  | nil => exact .refl _
  | @put d _ _ _ r rest _ _ ih =>
    have hput : Counts d [] (d.put name r) := by
      refine ⟨rfl, fun other => ?_⟩
      have htouched : (d.put name r).Touched other ↔ name = other ∨ d.Touched other :=
        touched_withTable
      rw [htouched, or_iff_right_of_imp (fun heq => heq ▸ hname)]
      simp
    exact hput.trans (ih ((hput.touched name).2 (.inl hname)))
  | @emit d _ _ _ _ _ entity r _ rest _ hemit _ ih =>
    have hone := counts_emit hemit
    change Counts d (firsts next d.emitted ((entity, r) :: rest.filterMap Action.emit?)) _
    rw [firsts_cons_of_emit hemit]
    exact hone.trans (ih ((hone.touched name).2 (.inl hname)))

/-- Of the records emitted into an entity some are kept. -/
theorem exists_mem_firsts_iff {emitted : List (String × Record)} :
    (∃ p ∈ firsts next [] emitted, p.1 = name) ↔ ∃ p ∈ emitted, p.1 = name := by
  -- A record under a key that was not seen before is kept, or an earlier one under its key is.
  have hkept : ∀ (emitted : List (String × Record)) (seen : List (String × Key)), ∀ p ∈ emitted,
      place p ∈ seen ∨ ∃ q ∈ firsts next seen emitted, q.1 = p.1 := by
    intro emitted
    induction emitted with
    | nil => exact fun _ _ hp => nomatch hp
    | cons q rest ih =>
      intro seen p hp
      rw [firsts_cons]
      rcases List.mem_cons.1 hp with rfl | hp
      · split
        · split
          · next hseen => exact .inl (List.contains_iff_mem.1 hseen)
          · exact .inr ⟨p, List.mem_cons_self, rfl⟩
        · exact .inr ⟨p, List.mem_cons_self, rfl⟩
      · split
        · split
          · exact ih seen p hp
          · rcases ih (place q :: seen) p hp with hmem | ⟨q', hq', hname⟩
            · rcases List.mem_cons.1 hmem with hplace | hmem
              · exact .inr ⟨q, List.mem_cons_self, (congrArg Prod.fst hplace).symm⟩
              · exact .inl hmem
            · exact .inr ⟨q', List.mem_cons_of_mem q hq', hname⟩
        · rcases ih seen p hp with hmem | ⟨q', hq', hname⟩
          · exact .inl hmem
          · exact .inr ⟨q', List.mem_cons_of_mem q hq', hname⟩
  constructor
  · rintro ⟨p, hp, rfl⟩
    exact ⟨p, Step.mem_of_mem_firsts hp, rfl⟩
  · rintro ⟨p, hp, rfl⟩
    rcases hkept emitted [] p hp with hmem | hq
    · cases hmem
    · exact hq

/-- Edits count nothing, and touch the tables whose records they change. -/
theorem added_foldl_applyEdit (edits : List Edit) (d : Draft) :
    (edits.foldl applyEdit d).added = d.added ∧
      ∀ name, (edits.foldl applyEdit d).Touched name ↔
        d.Touched name ∨ ∃ edit ∈ edits, edit.touchesRecords = true ∧ edit.entity = name := by
  induction edits generalizing d with
  | nil => simp
  | cons edit rest ih =>
    have hone : (d.applyEdit edit).added = d.added ∧ ∀ name, (d.applyEdit edit).Touched name ↔
        d.Touched name ∨ (edit.touchesRecords = true ∧ edit.entity = name) := by
      unfold applyEdit
      split
      · next htouch =>
        refine ⟨rfl, fun name => ?_⟩
        rw [touched_withTable, and_iff_right htouch, or_comm]
      · next htouch => exact ⟨rfl, fun name => by simp [htouch]⟩
    obtain ⟨hadded, htouched⟩ := ih (d.applyEdit edit)
    refine ⟨hadded.trans hone.1, fun name => ?_⟩
    rw [List.foldl_cons, htouched, hone.2, or_assoc]
    simp only [List.mem_cons, exists_eq_or_imp]

end Draft

namespace Step

variable {step : Step} {before : Snapshot} {next : Schema} {d d' : Draft} {rows rows' : RowCounter}
  {name : String}

/-- The clears and the edits of a step count nothing, and touch the tables that they change. -/
theorem added_edited (step : Step) (before : Snapshot) :
    (step.edited before).added = 0 ∧ ∀ name, (step.edited before).Touched name ↔
      name ∈ step.clears ∨
        ∃ edit ∈ step.edits, edit.touchesRecords = true ∧ edit.entity = name := by
  have hclear : ∀ (clears : List String) (d : Draft),
      (clears.foldl Draft.clear d).added = d.added := by
    intro clears
    induction clears with
    | nil => exact fun _ => rfl
    | cons name rest ih => exact fun d => ih (d.clear name)
  obtain ⟨hadded, htouched⟩ := Draft.added_foldl_applyEdit step.edits
    (step.clears.foldl Draft.clear (.ofSnapshot before))
  refine ⟨hadded.trans (hclear _ _), fun name => ?_⟩
  have hstart : ¬(Draft.ofSnapshot before).Touched name := by
    unfold Draft.Touched Draft.ofSnapshot
    simp
  rw [edited, htouched, (Draft.foldl_clear _ _).2.1, or_iff_left hstart]

/-- What the transform of a step gives for the edited records of its entity. -/
def outputs (step : Step) (before : Snapshot) : List Transform.Output :=
  match step.transform? with
  | some (entity, _) => (step.editedTable before entity).values.map (step.outputOf before entity)
  | none => []

/-- A step transforms an entity if that is the one named with its transform. -/
theorem exists_transform_iff :
    (∃ t, step.transform? = some (name, t)) ↔ step.transform?.map (·.1) = some name := by
  simp

/-- The transform of a step counts the emitted records that are kept, and touches its own table. -/
theorem added_transformed {config : PassConfig} {count fallbacks : Nat}
    (h : (step.transformed next config (step.edited before)).run.run rows =
      (.ok (d', count, fallbacks), rows')) :
    d'.added = (Draft.firsts next [] (step.emissions before)).length ∧
      ∀ name, d'.Touched name ↔ (step.edited before).Touched name ∨
        (∃ t, step.transform? = some (name, t)) ∨ ∃ p ∈ step.emissions before, p.1 = name := by
  obtain ⟨hadded, -⟩ := step.added_edited before
  cases ht : step.transform? with
  | none =>
    have hemissions : step.emissions before = [] := by
      unfold emissions
      rw [ht]
    rcases transformed_ok_cases h with ⟨-, rfl, -⟩ | ⟨name, t, _, _, hsome, -⟩
    · rw [hemissions]
      exact ⟨hadded, fun name => by simp⟩
    · rw [ht] at hsome
      cases hsome
  | some p =>
    obtain ⟨entity, t⟩ := p
    obtain ⟨dropped, hsettles, -⟩ := settles_of_transformed ht h
    have hcounts := hsettles.counts (Draft.touched_withTable.2 (.inl rfl))
    have hstart : ((step.edited before).withTable entity ∅).emitted = [] :=
      (step.snapshot_edited before).2
    rw [hstart, ← emissions_eq ht] at hcounts
    refine ⟨hcounts.added.trans ?_, fun name => ?_⟩
    · rw [show ((step.edited before).withTable entity ∅).added = 0 from hadded, Nat.zero_add]
    · have hentity : (∃ t', some (entity, t) = some (name, t')) ↔ entity = name := by simp
      rw [hcounts.touched, Draft.touched_withTable, Draft.exists_mem_firsts_iff, hentity, or_assoc,
        or_left_comm]

/-- The pass of a step counts the outputs of its transform, and as fallbacks those that they took
and the emitted records that were dropped. -/
theorem counted_of_transformed {config : PassConfig} {count fallbacks : Nat}
    (h : (step.transformed next config (step.edited before)).run.run rows =
      (.ok (d', count, fallbacks), rows')) :
    count = (step.outputs before).length ∧
      fallbacks + (Draft.firsts next [] (step.emissions before)).length =
        Transform.totalFallbacks (step.outputs before) + (step.emissions before).length := by
  cases ht : step.transform? with
  | none =>
    unfold transformed at h
    rw [ht] at h
    obtain ⟨hpair, -⟩ := Drawing.pure_ok_iff.1 h
    cases hpair
    unfold outputs emissions
    rw [ht]
    exact ⟨rfl, rfl⟩
  | some p =>
    obtain ⟨entity, t⟩ := p
    obtain ⟨_, _, -, -, hcount, -⟩ := exists_outputs_of_transformed ht h
    have houtputs : step.outputs before =
        (step.editedTable before entity).values.map (step.outputOf before entity) := by
      unfold outputs
      rw [ht]
    rw [houtputs, List.length_map, hcount, table_edited]
    exact ⟨rfl, fallbacks_of_transformed ht h⟩

/-- The draft of a plan counts the records that the step adds, and touches the tables that the step
concerns, except those that it only creates. -/
theorem touched_of_plan {config : PassConfig} {count fallbacks : Nat} {rows₁ : RowCounter}
    (htransformed : (step.transformed next config (step.edited before)).run.run rows =
      (.ok (d, count, fallbacks), rows₁))
    (hadd : (d.addAll next step.inserts).run.run rows₁ = (.ok d', rows')) :
    d'.added = (Draft.firsts next [] (step.emissions before)).length + step.inserts.length ∧
      ∀ name, d'.Touched name ↔ name ∈ step.clears ∨
        (∃ edit ∈ step.edits, edit.touchesRecords = true ∧ edit.entity = name) ∨
        (∃ t, step.transform? = some (name, t)) ∨ (∃ p ∈ step.emissions before, p.1 = name) ∨
        ∃ p ∈ step.inserts, p.1 = name := by
  obtain ⟨hadded, htouched⟩ := added_transformed htransformed
  have hcounts := Draft.counts_addAll hadd
  refine ⟨hcounts.added.trans (by rw [hadded]), fun name => ?_⟩
  rw [hcounts.touched, htouched, (step.added_edited before).2]
  simp only [or_assoc]

/-- Of the tables with records, the draft of a plan touches those that the step concerns: a table
that it only creates is empty. -/
theorem touched_iff_concerns {s : Store} {live : Schema} {version : Nat}
    {config : PassConfig} {count fallbacks : Nat} {rows₁ : RowCounter}
    (haccepts : Registry.Accepts live step next)
    (htransformed : (step.transformed (Registry.atVersion next version) config
      (step.edited (s.snapshot live))).run.run rows = (.ok (d, count, fallbacks), rows₁))
    (hadd : (d.addAll (Registry.atVersion next version) step.inserts).run.run rows₁ =
      (.ok d', rows'))
    {key : Key} (hkey : (d'.table name).contains key = true) :
    d'.Touched name ↔ step.Concerns (s.snapshot live) name := by
  obtain ⟨-, htouched⟩ := touched_of_plan htransformed hadd
  have hcovers := covers_of_plan haccepts htransformed hadd
  unfold Concerns
  constructor
  · intro h
    rcases (htouched name).1 h with h | ⟨edit, hmem, -, rfl⟩ | h
    · exact .inl h
    · exact .inr (.inl ⟨edit, hmem, rfl⟩)
    · exact .inr (.inr h)
  · rintro (h | ⟨edit, hmem, rfl⟩ | h)
    · exact hcovers.clears name h
    · cases htouch : edit.touchesRecords with
      | true => exact hcovers.edits edit hmem htouch
      | false =>
        refine Decidable.of_not_not fun hnot => ?_
        have habsent := Edit.applyAll_absent_of_mem haccepts.edits hmem htouch
        rw [Draft.table_of_not_touched hnot, hcovers.snapshot,
          s.table_snapshot_of_absent habsent] at hkey
        simp at hkey
    · exact (htouched name).2 (.inr (.inr h))

end Step

end Strata
