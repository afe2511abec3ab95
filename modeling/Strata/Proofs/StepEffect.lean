import Strata.Proofs.Additions
import Strata.Proofs.Consistency

/-!
# What a step does to the records

The records that a step leaves are described without its draft. The old records of a table are
passed through the edits of its entity (`Step.editedTable`) and, for the entity of the transform,
through the transform (`Step.settledTable`); the emitted records of which the first of each key are
kept, and the inserted ones, are added (`Step.additions`). A committed step leaves exactly that: the
transform brings the draft to the settled tables and adds what was emitted
(`Step.grows_transformed`), and the commit leaves what the draft holds
(`Registry.Commits.exists_draft`).
-/

namespace Strata

namespace Step

/-- The records of an entity after the clears and the edits of a step. -/
def editedTable (step : Step) (before : Snapshot) (name : String) : Table :=
  (if name ∈ step.clears then ∅ else before.table name).map fun _ r =>
    Edit.applyAllToRecord step.edits name r

/-- What the transform of a step gives for a record of an entity; a record of another entity than
that of the transform stays as it is. -/
def outputOf (step : Step) (before : Snapshot) (name : String) (r : Record) : Transform.Output :=
  match step.transform? with
  | some (entity, t) =>
    if entity = name then
      match t r ⟨before, entity⟩ with
      | .ok output => output
      | .error _ => .ofRecord r
    else .ofRecord r
  | none => .ofRecord r

/-- The records of an entity after the clears, the edits and the transform of a step. -/
def settledTable (step : Step) (before : Snapshot) (name : String) : Table :=
  (step.editedTable before name).map fun _ r => (step.outputOf before name r).record

/-- The records that the transform of a step emits, in the order of the records and, for each, in
the order of their emission. -/
def emissions (step : Step) (before : Snapshot) : List (String × Record) :=
  match step.transform? with
  | some (entity, _) =>
    (step.editedTable before entity).values.flatMap fun r =>
      (step.outputOf before entity r).emitted
  | none => []

/-- The records that a step adds: the emitted ones that are kept, and the inserted ones. -/
def additions (step : Step) (next : Schema) (before : Snapshot) : List (String × Record) :=
  Draft.firsts next [] (step.emissions before) ++ step.inserts

/-- Whether a step clears, edits, transforms, emits into or inserts into an entity. -/
def Concerns (step : Step) (before : Snapshot) (name : String) : Prop :=
  name ∈ step.clears ∨ (∃ edit ∈ step.edits, edit.entity = name) ∨
    (∃ t, step.transform? = some (name, t)) ∨ (∃ p ∈ step.emissions before, p.1 = name) ∨
    ∃ p ∈ step.inserts, p.1 = name

variable {step : Step} {before : Snapshot} {next : Schema} {d d' : Draft}
  {rows rows' : RowCounter} {name : String}

/-- The draft after the clears and the edits holds the edited tables. -/
theorem table_edited (step : Step) (before : Snapshot) (name : String) :
    (step.edited before).table name = step.editedTable before name := by
  refine Std.ExtTreeMap.ext_getElem? fun key => ?_
  unfold editedTable
  rw [getElem?_table_edited, Std.ExtTreeMap.getElem?_map]

/-- The output for a record that the transform accepts. -/
theorem outputOf_eq {t : Transform} (ht : step.transform? = some (name, t)) {r : Record}
    {output : Transform.Output} (hr : t r ⟨before, name⟩ = .ok output) :
    step.outputOf before name r = output := by
  unfold outputOf
  rw [ht]
  dsimp only
  rw [if_pos rfl, hr]

/-- A record of another entity than that of the transform stays as it is. -/
theorem outputOf_of_ne (h : ∀ t, step.transform? ≠ some (name, t)) (r : Record) :
    step.outputOf before name r = .ofRecord r := by
  unfold outputOf
  split
  · next entity t ht =>
    rw [if_neg]
    rintro rfl
    exact h t ht
  · rfl

/-- The records of another entity than that of the transform are settled once they are edited. -/
theorem settledTable_of_ne (h : ∀ t, step.transform? ≠ some (name, t)) :
    step.settledTable before name = step.editedTable before name := by
  refine Std.ExtTreeMap.ext_getElem? fun key => ?_
  unfold settledTable
  rw [Std.ExtTreeMap.getElem?_map]
  cases (step.editedTable before name)[key]? with
  | none => rfl
  | some r =>
    rw [Option.map_some, outputOf_of_ne h]
    rfl

/-- Kept records are among the emitted ones. -/
theorem mem_of_mem_firsts {seen : List (String × Key)} {emitted : List (String × Record)}
    {p : String × Record} (h : p ∈ Draft.firsts next seen emitted) : p ∈ emitted := by
  induction emitted generalizing seen with
  | nil => cases h
  | cons q rest ih =>
    rw [Draft.firsts_cons] at h
    split at h
    · split at h
      · exact List.mem_cons_of_mem q (ih h)
      · rcases List.mem_cons.1 h with rfl | h
        · exact List.mem_cons_self
        · exact List.mem_cons_of_mem q (ih h)
    · rcases List.mem_cons.1 h with rfl | h
      · exact List.mem_cons_self
      · exact List.mem_cons_of_mem q (ih h)

/-- Putting a record back into a table that nothing was added to does not count as growing. -/
theorem grows_put {t : Table} {new : List (String × Record)}
    (h : (d.withTable name t).Grows next rows new d' rows') (hnew : ∀ p ∈ new, p.1 ≠ name)
    (r : Record) :
    (d.withTable name (t.insert r.key r)).Grows next rows new (d'.put name r) rows' := by
  obtain ⟨added, hcompleted, hnodup, hfree, htable⟩ := h.added
  have hother : ∀ p ∈ added, p.1 ≠ name := by
    intro p hp
    obtain ⟨q, hq, hc⟩ := Draft.exists_of_mem_completed hcompleted hp
    rw [hc.1]
    exact hnew q hq
  refine ⟨h.counter, added, hcompleted, hnodup, fun p hp => ?_, fun other key r' => ?_⟩
  · have hp' := hfree p hp
    rw [Draft.table_withTable, if_neg (Ne.symm (hother p hp))] at hp' ⊢
    exact hp'
  · rw [Draft.getElem?_table_put, Draft.table_withTable]
    have hold := htable other key r'
    rw [Draft.table_withTable] at hold
    by_cases hname : name = other
    · subst hname
      have hnone : ¬((name, r') ∈ added ∧ r'.key = key) := fun h => hother _ h.1 rfl
      rw [if_pos rfl, or_iff_left hnone] at hold
      rw [if_pos rfl, or_iff_left hnone, Table.getElem?_insert]
      by_cases hkey : r.key = key
      · rw [if_pos ⟨rfl, hkey⟩, if_pos hkey]
      · rw [if_neg fun h => hkey h.2, if_neg hkey]
        exact hold
    · rw [if_neg fun h => hname h.1, if_neg hname]
      rw [if_neg hname] at hold
      exact hold

/-- Settling outputs that emit into other tables puts their records back, and makes the draft grow
by the emitted records that are kept. -/
theorem grows_settle {outputs : List (Key × Transform.Output)} {dropped : Nat}
    (hempty : d.table name = ∅) (hother : ∀ p ∈ outputs, ∀ q ∈ p.2.emitted, q.1 ≠ name)
    (h : (settle next name d outputs).run.run rows = (.ok (d', dropped), rows')) :
    (d.withTable name (.ofRecords (outputs.map (·.2.record)))).Grows next rows
        (Draft.firsts next d.emitted (outputs.flatMap (·.2.emitted))) d' rows' ∧
      ∀ p ∈ outputs, p.2.record.key = p.1 := by
  -- The records of the outputs done are back, and the draft has grown by what they emitted; the
  -- keys seen decide which of the later emissions are kept.
  let motive (rest : List (Key × Transform.Output)) (d' : Draft) (rows' : RowCounter) : Prop :=
    ∃ done, outputs = done ++ rest ∧
      (d.withTable name (.ofRecords (done.map (·.2.record)))).Grows next rows
        (Draft.firsts next d.emitted (done.flatMap (·.2.emitted))) d' rows' ∧
      d'.emitted = Draft.seenAfter next d.emitted (done.flatMap (·.2.emitted)) ∧
      ∀ p ∈ done, p.2.record.key = p.1
  have hinit : motive outputs d rows := by
    refine ⟨[], rfl, ?_, rfl, fun _ hmem => (by cases hmem)⟩
    refine (Draft.Grows.refl next d rows).congr (fun other => ?_) fun _ => rfl
    rw [Draft.table_withTable]
    split
    · next heq =>
      subst heq
      exact hempty.symm
    · rfl
  have hstep : ∀ output rest d₁ rows₁ d₂ n rows₂,
      motive ((output.record.key, output) :: rest) d₁ rows₁ →
      ((d₁.put name output.record).emitAll next output.emitted).run.run rows₁ =
        (.ok (d₂, n), rows₂) → motive rest d₂ rows₂ := by
    rintro output rest d₁ rows₁ d₂ n rows₂ ⟨done, hdone, hgrows, hseen, hkeys⟩ hemit
    have hput := grows_put hgrows (fun q hq => ?_) output.record
    · obtain ⟨hgrows', hseen'⟩ := Draft.grows_emitAll hemit
      change Draft.Grows next _ rows₁ (Draft.firsts next d₁.emitted output.emitted) d₂ rows₂
        at hgrows'
      change d₂.emitted = Draft.seenAfter next d₁.emitted output.emitted at hseen'
      rw [hseen] at hgrows' hseen'
      refine ⟨done ++ [(output.record.key, output)], by simp [hdone], ?_, ?_, fun p hp => ?_⟩
      · rw [List.flatMap_append, Draft.firsts_append, List.flatMap_singleton, List.map_append,
          List.map_singleton]
        refine (hput.trans hgrows').congr (fun other => ?_) fun _ => rfl
        rw [Table.ofRecords, List.foldl_append]
        rfl
      · rw [List.flatMap_append, Draft.seenAfter_append, List.flatMap_singleton]
        exact hseen'
      · rcases List.mem_append.1 hp with hp | hp
        · exact hkeys p hp
        · rw [List.mem_singleton.1 hp]
    · obtain ⟨p, hp, hq⟩ := List.mem_flatMap.1 (mem_of_mem_firsts hq)
      exact hother p (hdone ▸ List.mem_append_left _ hp) q hq
  obtain ⟨done, hdone, hgrows, -, hkeys⟩ := settle_induct motive hstep hinit h
  rw [List.append_nil] at hdone
  rw [hdone]
  exact ⟨hgrows, hkeys⟩

/-- The clears and the edits keep the snapshot, and emit nothing. -/
theorem snapshot_edited (step : Step) (before : Snapshot) :
    (step.edited before).snapshot = before ∧ (step.edited before).emitted = [] := by
  have hclear : ∀ (clears : List String) (d : Draft),
      (clears.foldl Draft.clear d).snapshot = d.snapshot ∧
        (clears.foldl Draft.clear d).emitted = d.emitted := by
    intro clears
    induction clears with
    | nil => exact fun d => ⟨rfl, rfl⟩
    | cons name rest ih => exact fun d => ih (d.clear name)
  have hedit : ∀ (edits : List Edit) (d : Draft),
      (edits.foldl Draft.applyEdit d).snapshot = d.snapshot ∧
        (edits.foldl Draft.applyEdit d).emitted = d.emitted := by
    intro edits
    induction edits with
    | nil => exact fun d => ⟨rfl, rfl⟩
    | cons edit rest ih =>
      intro d
      have hone : (d.applyEdit edit).snapshot = d.snapshot ∧
          (d.applyEdit edit).emitted = d.emitted := by
        unfold Draft.applyEdit
        split <;> exact ⟨rfl, rfl⟩
      exact ⟨(ih _).1.trans hone.1, (ih _).2.trans hone.2⟩
  unfold edited
  exact ⟨(hedit _ _).1.trans (hclear _ _).1, (hedit _ _).2.trans (hclear _ _).2⟩

/-- The edited tables are keyed if those of the snapshot are. -/
theorem keyed_editedTable (hkeyed : ∀ name, (before.table name).Keyed) (step : Step)
    (name : String) : (step.editedTable before name).Keyed := by
  unfold editedTable
  refine Table.Keyed.map ?_ fun _ r => Edit.key_applyAllToRecord step.edits name r
  split
  · exact Table.keyed_empty
  · exact hkeyed name

/-- The outputs of a pass over the edited records of the transformed entity. -/
theorem outputs_eq {t : Transform} (ht : step.transform? = some (name, t)) {records : List Record}
    {outputs : List Transform.Output}
    (hall : List.Forall₂ (fun r output => t r ⟨before, name⟩ = .ok output) records outputs) :
    outputs = records.map (step.outputOf before name) ∧
      ∀ r ∈ records, t r ⟨before, name⟩ = .ok (step.outputOf before name r) := by
  induction hall with
  | nil => exact ⟨rfl, fun _ hmem => (by cases hmem)⟩
  | @cons r output rest more hr _ ih =>
    have houtput := outputOf_eq ht hr
    refine ⟨by rw [List.map_cons, houtput, ih.1], fun r' hr' => ?_⟩
    rcases List.mem_cons.1 hr' with rfl | hr'
    · rw [houtput]
      exact hr
    · exact ih.2 r' hr'

/-- The tables that result when the outputs for the edited records are put back are the settled
ones. -/
theorem table_settled {t : Transform} (ht : step.transform? = some (name, t))
    (hkeyed : ∀ name, (before.table name).Keyed)
    (hkeys : ∀ r ∈ (step.editedTable before name).values,
      (step.outputOf before name r).record.key = r.key) (other : String) :
    (((step.edited before).withTable name ∅).withTable name (.ofRecords
      ((step.editedTable before name).values.map fun r =>
        (step.outputOf before name r).record))).table other = step.settledTable before other := by
  rw [Draft.table_withTable]
  split
  · next heq =>
    subst heq
    exact (keyed_editedTable hkeyed step name).ofRecords_map hkeys
  · next hne =>
    rw [Draft.table_withTable, if_neg hne, table_edited, settledTable_of_ne]
    intro t' ht'
    rw [ht] at ht'
    cases ht'
    exact hne rfl

/-- Without a transform the draft is that of the settled tables. -/
theorem grows_of_no_transform (hnone : step.transform? = none) (rows : RowCounter) :
    ∃ base : Draft, (∀ name, base.table name = step.settledTable before name) ∧
      base.Grows next rows (Draft.firsts next [] (step.emissions before)) (step.edited before)
        rows := by
  have hemissions : step.emissions before = [] := by
    unfold emissions
    rw [hnone]
  refine ⟨step.edited before, fun name => ?_, ?_⟩
  · rw [table_edited, settledTable_of_ne]
    rw [hnone]
    exact fun t ht => (by cases ht)
  · rw [hemissions]
    exact .refl next _ _

/-- After the transform of a step the draft is that of the settled tables, grown by the emitted
records that are kept; the transform accepted every record and kept its key. -/
theorem grows_transformed {config : PassConfig} {count fallbacks : Nat}
    (hkeyed : ∀ name, (before.table name).Keyed)
    (hother : ∀ name t, step.transform? = some (name, t) → ∀ r cx output, t r cx = .ok output →
      ∀ q ∈ output.emitted, q.1 ≠ name)
    (h : (step.transformed next config (step.edited before)).run.run rows =
      (.ok (d', count, fallbacks), rows')) :
    (∃ base : Draft, (∀ name, base.table name = step.settledTable before name) ∧
      base.Grows next rows (Draft.firsts next [] (step.emissions before)) d' rows') ∧
    ∀ name t, step.transform? = some (name, t) →
      ∀ r ∈ (step.editedTable before name).values, ∃ output,
        t r ⟨before, name⟩ = .ok output ∧ output.record.key = r.key := by
  rcases transformed_ok_cases h with
    ⟨hnone, rfl, rfl⟩ | ⟨name, t, outputs, dropped, ht, hall, hsettle⟩
  · refine ⟨grows_of_no_transform hnone _, fun name t ht => ?_⟩
    rw [hnone] at ht
    cases ht
  obtain ⟨hsnapshot, hemitted⟩ := step.snapshot_edited before
  rw [hsnapshot, table_edited] at hall
  rw [table_edited] at hsettle
  -- The outputs are those of the edited records, so each meets the key of its own record.
  obtain ⟨rfl, haccepts⟩ := outputs_eq ht hall
  rw [List.zip_map'] at hsettle
  have hempty : ((step.edited before).withTable name ∅).table name = ∅ := by
    rw [Draft.table_withTable, if_pos rfl]
  obtain ⟨hgrows, hkeys⟩ := grows_settle hempty (fun p hp => by
    obtain ⟨r, hr, rfl⟩ := List.mem_map.1 hp
    exact hother name t ht r _ _ (haccepts r hr)) hsettle
  have hkeys' : ∀ r ∈ (step.editedTable before name).values,
      (step.outputOf before name r).record.key = r.key :=
    fun r hr => hkeys _ (List.mem_map_of_mem hr)
  have hemissions : step.emissions before =
      (step.editedTable before name).values.flatMap fun r =>
        (step.outputOf before name r).emitted := by
    unfold emissions
    rw [ht]
  rw [List.map_map, List.flatMap_map] at hgrows
  refine ⟨⟨_, table_settled ht hkeyed hkeys', ?_⟩, fun name' t' ht' r hr => ?_⟩
  · rw [hemissions, ← hemitted]
    exact hgrows
  · rw [ht] at ht'
    cases ht'
    exact ⟨_, haccepts r hr, hkeys' r hr⟩

/-- The tables of an entity that a step does not concern are settled from the start. -/
theorem settledTable_of_not_concerns (h : ¬step.Concerns before name) :
    step.settledTable before name = before.table name := by
  unfold Concerns at h
  rw [not_or, not_or, not_or] at h
  obtain ⟨hclears, hedits, htransform, -⟩ := h
  rw [settledTable_of_ne fun t ht => htransform ⟨t, ht⟩]
  have hrecord : ∀ r, Edit.applyAllToRecord step.edits name r = r := by
    intro r
    have hnone : step.edits.filter (fun edit => edit.entity == name) = [] := by
      rw [List.filter_eq_nil_iff]
      intro edit hmem heq
      exact hedits ⟨edit, hmem, beq_iff_eq.1 heq⟩
    unfold Edit.applyAllToRecord
    rw [hnone]
    rfl
  refine Std.ExtTreeMap.ext_getElem? fun key => ?_
  unfold editedTable
  rw [if_neg hclears, Std.ExtTreeMap.getElem?_map]
  simp only [hrecord]
  exact Option.map_id'

end Step

namespace Registry

variable {baseline : Schema} {steps : List Step} {registry : Registry} {version : Nat}
  {s s' : Store} {step : Step}

/-- A committed step over a consistent store leaves what its draft holds after the transform and the
inserts. -/
theorem Commits.exists_draft (hbuild : build baseline steps = .ok registry)
    (hnames : ∀ version schema, registry.schemaAt? version = some schema → schema.NulFreeNames)
    {config : PassConfig} {report : StepReport} (h : Commits registry config version s report s')
    (hs : Consistent registry version s) (hstep : registry.stepFor? version = some step) :
    ∃ live next d₁ d count fallbacks rows₁, registry.schemaAt? version = some live ∧
      registry.schemaAt? (version + 1) = some next ∧ s.Holds live ∧ s'.Holds next ∧
      (step.transformed next config (step.edited (s.snapshot live))).run.run s.rows =
        (.ok (d₁, count, fallbacks), rows₁) ∧
      (d₁.addAll next step.inserts).run.run rows₁ = (.ok d, s'.rows) ∧
      ∀ name, NulFree name → ∀ key, s'.get? name key = (d.table name)[key]? := by
  obtain ⟨live, hlive', -, -, hholds⟩ := hs.live
  obtain ⟨next', hnext', -, -, hholds'⟩ := (h.consistent hbuild hnames hs).live
  cases h.drafted hbuild with
  | @of step' _ next d₁ d count fallbacks rows₁ rows edits hfound hlive haccepts hnext
      htransformed hadd _ _ hcommitted =>
    rw [hstep] at hfound
    cases hfound
    rw [hlive] at hlive'
    cases hlive'
    rw [hnext] at hnext'
    cases hnext'
    have hrows : s'.rows = rows := by
      rw [hcommitted]
      unfold Store.commit
      rw [Store.applyWrites_eq]
    have hcovers : Step.Covers step (atVersion next (version + 1))
        (Store.snapshot { s with rows } live) d :=
      Step.covers_of_plan haccepts htransformed hadd
    have hdrawn : Store.Holds { s with rows } live := hholds
    refine ⟨live, _, d₁, d, count, fallbacks, rows₁, hlive, hnext, hholds, hholds', htransformed,
      hrows ▸ hadd, fun name hname key => ?_⟩
    -- The row numbers drawn play no part in the records that the store held before.
    rw [hcommitted]
    exact hcovers.get?_of_holds hdrawn (hnames _ _ hlive) (hnames _ _ hnext) hname key

/-- **What a committed step leaves.** Over a store that is consistent at the version of a step whose
transform emits into other entities than its own, the step leaves the settled tables and the records
that it adds, each completed, under a key of its own that was free, and nothing else; an entity that
the step does not concern is as before. -/
theorem records_of_step (hbuild : build baseline steps = .ok registry)
    (hbaseline : baseline.NulFreeNames)
    (hcreated : ∀ step ∈ steps, ∀ e, Edit.createTable e ∈ step.edits → NulFree e.name)
    (hs : Consistent registry version s) (hstep : registry.stepFor? version = some step)
    (hother : ∀ name t, step.transform? = some (name, t) → ∀ r cx output, t r cx = .ok output →
      ∀ p ∈ output.emitted, p.1 ≠ name)
    {config : PassConfig} {journal journal' : Journal} {report : StepReport}
    (hcommit : registry.stepFrom config version journal s = (.ok (report, journal'), s')) :
    ∃ live next, registry.schemaAt? version = some live ∧
      registry.schemaAt? (version + 1) = some next ∧ s'.Holds next ∧
      (∀ name t, step.transform? = some (name, t) →
        ∀ r ∈ (step.editedTable (s.snapshot live) name).values, ∃ output,
          t r ⟨s.snapshot live, name⟩ = .ok output ∧ output.record.key = r.key) ∧
      (∀ name, NulFree name → ¬step.Concerns (s.snapshot live) name →
        ∀ key, s'.get? name key = s.get? name key) ∧
      ∃ added, List.Forall₂ (Draft.Completed next s.rows s'.rows)
          (step.additions next (s.snapshot live)) added ∧
        (added.map Draft.place).Nodup ∧
        (∀ p ∈ added, (step.settledTable (s.snapshot live) p.1)[p.2.key]? = none) ∧
        ∀ name, NulFree name → ∀ key r, s'.get? name key = some r ↔
          (step.settledTable (s.snapshot live) name)[key]? = some r ∨
            ((name, r) ∈ added ∧ r.key = key) := by
  have hnames : ∀ version schema, registry.schemaAt? version = some schema → schema.NulFreeNames :=
    fun _ _ hschema => names_of_schemaAt? hbuild NulFree hbaseline hcreated hschema
  rcases stepFrom_cases registry config version journal s with
    ⟨report', s₁, j, hcommits, hrun, -⟩ | ⟨e, rows, -, hrun⟩
  swap
  · rw [hcommit] at hrun
    cases hrun
  rw [hcommit] at hrun
  cases hrun
  obtain ⟨live, next, d₁, d, count, fallbacks, rows₁, hlive, hnext, hholds, hholds', htransformed,
    hadd, hdraft⟩ := hcommits.exists_draft hbuild hnames hs hstep
  obtain ⟨⟨base, hbase, hemitted⟩, haccepted⟩ :=
    Step.grows_transformed (s.keyed_table_snapshot live) hother htransformed
  obtain ⟨added, hcompleted, hnodup, hfree, htable⟩ :=
    (hemitted.trans (Draft.grows_addAll hadd)).added
  -- The draft has grown from the settled tables.
  have hget : ∀ name, NulFree name → ∀ key r, s₁.get? name key = some r ↔
      (step.settledTable (s.snapshot live) name)[key]? = some r ∨
        ((name, r) ∈ added ∧ r.key = key) := by
    intro name hname key r
    rw [hdraft name hname key, ← hbase]
    exact htable name key r
  refine ⟨live, next, hlive, hnext, hholds', haccepted, fun name hname hnot key => ?_, added,
    hcompleted, hnodup, fun p hp => ?_, hget⟩
  · -- Every added record is of an entity that the step concerns.
    refine Option.ext fun r => ?_
    have hnone : ¬((name, r) ∈ added ∧ r.key = key) := by
      rintro ⟨hmem, -⟩
      obtain ⟨q, hq, hc⟩ := Draft.exists_of_mem_completed hcompleted hmem
      rcases List.mem_append.1 hq with hq | hq
      · exact hnot (.inr (.inr (.inr (.inl ⟨q, Step.mem_of_mem_firsts hq, hc.1.symm⟩))))
      · exact hnot (.inr (.inr (.inr (.inr ⟨q, hq, hc.1.symm⟩))))
    change s₁.get? name key = some r ↔ _
    rw [hget name hname, or_iff_left hnone, Step.settledTable_of_not_concerns hnot,
      hholds.getElem?_table_snapshot (hnames _ _ hlive) hname]
  · rw [← hbase]
    exact hfree p hp

/-- A listing of people over a store with one person. -/
theorem records_of_step_listing :
    ∃ registry report journal s',
      build people [listing "Note"] = .ok registry ∧
      registry.stepFrom .standard 0 (.begin 0 1) onePerson = (.ok (report, journal), s') ∧
      ∃ live next added, registry.schemaAt? 0 = some live ∧ registry.schemaAt? 1 = some next ∧
        List.Forall₂ (Draft.Completed next onePerson.rows s'.rows)
          ((listing "Note").additions next (onePerson.snapshot live)) added ∧
        ∀ name, NulFree name → ∀ key r, s'.get? name key = some r ↔
          ((listing "Note").settledTable (onePerson.snapshot live) name)[key]? = some r ∨
            ((name, r) ∈ added ∧ r.key = key) := by
  have hother : ∀ name t, (listing "Note").transform? = some (name, t) → ∀ r cx output,
      t r cx = .ok output → ∀ p ∈ output.emitted, p.1 ≠ name := by
    rintro name t ht r cx output hr p hp
    cases ht
    cases hr
    cases List.mem_singleton.1 hp
    decide
  obtain ⟨registry, report, journal, s', hbuild, hstep, hs, hcommit⟩ :
      ∃ registry report journal s', build people [listing "Note"] = .ok registry ∧
        registry.stepFor? 0 = some (listing "Note") ∧ Consistent registry 0 onePerson ∧
        registry.stepFrom .standard 0 (.begin 0 1) onePerson = (.ok (report, journal), s') :=
    ⟨_, _, _, _, rfl, rfl, ⟨rfl, people, rfl, rfl, rfl, onePerson_holds⟩,
      stepFrom_of_plan_ok rfl rfl rfl rfl rfl _⟩
  obtain ⟨live, next, hlive, hnext, -, -, -, added, hcompleted, -, -, hget⟩ :=
    records_of_step hbuild people_nulFreeNames
      (fun _ hmem _ => nulFree_of_listing (by decide) hmem) hs hstep hother hcommit
  exact ⟨registry, report, journal, s', hbuild, hcommit, live, next, added, hlive, hnext,
    hcompleted, hget⟩

/-- Names without null characters are needed of the created tables too: the storage key of the
record inserted here is also one of a person. -/
theorem exists_step_changing_other_entity :
    ∃ registry report journal s',
      build people [creation "Person\x00\x02"] = .ok registry ∧
      people.WellFormed ∧ people.NulFreeNames ∧ Consistent registry 0 onePerson ∧
      registry.stepFor? 0 = some (creation "Person\x00\x02") ∧
      (creation "Person\x00\x02").transform? = none ∧
      registry.stepFrom .standard 0 (.begin 0 1) onePerson = (.ok (report, journal), s') ∧
      NulFree "Person" ∧
      ¬(creation "Person\x00\x02").Concerns (onePerson.snapshot people) "Person" ∧
      ∃ key, s'.get? "Person" key ≠ onePerson.get? "Person" key := by
  refine ⟨_, _, _, _, rfl, people_wellFormed, people_nulFreeNames,
    ⟨rfl, people, rfl, rfl, rfl, onePerson_holds⟩, rfl, rfl,
    stepFrom_of_plan_ok rfl rfl rfl rfl rfl _, by decide, ?_, ?_⟩
  · rintro (hmem | ⟨edit, hmem, hname⟩ | ⟨t, ht⟩ | ⟨p, hmem, -⟩ | ⟨p, hmem, hname⟩)
    · cases hmem
    · cases List.mem_singleton.1 hmem
      revert hname
      decide
    · cases ht
    · cases hmem
    · cases List.mem_singleton.1 hmem
      revert hname
      decide
  · exact ⟨.str "\x00\x03\x00\x00\x00\x00\x00\x00\x00\x00", Option.some_ne_none _⟩

end Registry

end Strata
