import Strata.Proofs.Settling

/-!
# What becomes of emitted records

A record that a transform emits into a keyed entity repeats the key of an earlier one and is dropped
and counted, or it is the first under its key. Then its key was free, and the store holds the record
after the step, with its defaults filled. There is one exception: a record that is emitted into the
transformed entity itself, under the key of a record that is still to be put back. That record is
put back over it, and the emitted one is lost without being counted. An emission under the key of a
record from before the step fails the step, but again not if the record is still to be put back
(`Registry.emissions_of_step`).
-/

namespace Strata

namespace Step

/-- The transform of a step on an entity emits a record: after the records in `earlier`, and while
the records under the keys in `pending` are still to be put back. -/
def Emits (step : Step) (before : Snapshot) (name : String) (earlier : List (String × Record))
    (p : String × Record) (pending : List Key) : Prop :=
  ∃ done r rest emitted more, (step.editedTable before name).values = done ++ r :: rest ∧
    (step.outputOf before name r).emitted = emitted ++ p :: more ∧
    earlier = done.flatMap (fun r => (step.outputOf before name r).emitted) ++ emitted ∧
    pending = rest.map (·.key)

variable {step : Step} {before : Snapshot} {next : Schema} {d' : Draft} {rows rows' : RowCounter}
  {name : String} {t : Transform} {earlier : List (String × Record)} {p : String × Record}
  {pending : List Key}

/-- The actions by which the transform of a step on an entity is settled. -/
def actions (step : Step) (before : Snapshot) (name : String) : List Draft.Action :=
  (step.editedTable before name).values.flatMap fun r => (step.outputOf before name r).actions

/-- Emissions put nothing back. -/
theorem filterMap_put?_map (emitted : List (String × Record)) :
    (emitted.map fun p => Draft.Action.emit p.1 p.2).filterMap Draft.Action.put? = [] := by
  rw [List.filterMap_map]
  exact List.filterMap_eq_nil_iff.2 fun _ _ => rfl

/-- Emissions emit their records. -/
theorem filterMap_emit?_map (emitted : List (String × Record)) :
    (emitted.map fun p => Draft.Action.emit p.1 p.2).filterMap Draft.Action.emit? = emitted := by
  rw [List.filterMap_map]
  exact List.filterMap_some

/-- The records put back by actions for records are the changed records. -/
theorem filterMap_put?_actions (f : Record → Transform.Output) (records : List Record) :
    (records.flatMap fun r => (f r).actions).filterMap Draft.Action.put? =
      records.map fun r => (f r).record := by
  induction records with
  | nil => rfl
  | cons r rest ih =>
    rw [List.flatMap_cons, List.filterMap_append, ih, List.map_cons]
    change (f r).record :: _ ++ _ = _
    rw [filterMap_put?_map]
    rfl

/-- The records emitted by actions for records are those that the outputs emit. -/
theorem filterMap_emit?_actions (f : Record → Transform.Output) (records : List Record) :
    (records.flatMap fun r => (f r).actions).filterMap Draft.Action.emit? =
      records.flatMap fun r => (f r).emitted := by
  induction records with
  | nil => rfl
  | cons r rest ih =>
    rw [List.flatMap_cons, List.filterMap_append, ih, List.flatMap_cons]
    exact congrArg (· ++ _) (filterMap_emit?_map _)

/-- The emissions of a step are those of its actions. -/
theorem emissions_eq (ht : step.transform? = some (name, t)) :
    step.emissions before = (step.actions before name).filterMap Draft.Action.emit? := by
  unfold emissions actions
  rw [ht, filterMap_emit?_actions]

/-- A transform that succeeds settles the actions of its step; it has accepted every record and kept
its key. What was dropped counts as fallbacks. -/
theorem settles_of_transformed {config : PassConfig} {count fallbacks : Nat}
    (ht : step.transform? = some (name, t))
    (h : (step.transformed next config (step.edited before)).run.run rows =
      (.ok (d', count, fallbacks), rows')) :
    ∃ dropped, Draft.Settles next name ((step.edited before).withTable name ∅) rows
        (step.actions before name) d' rows' dropped ∧
      fallbacks = Transform.totalFallbacks
        ((step.editedTable before name).values.map (step.outputOf before name)) + dropped ∧
      ∀ r ∈ (step.editedTable before name).values,
        t r ⟨before, name⟩ = .ok (step.outputOf before name r) ∧
          (step.outputOf before name r).record.key = r.key := by
  obtain ⟨outputs, dropped, hall, hsettle, -, hfallbacks⟩ := exists_outputs_of_transformed ht h
  rw [(step.snapshot_edited before).1, table_edited] at hall
  rw [table_edited] at hsettle
  obtain ⟨rfl, haccepts⟩ := outputs_eq ht hall
  rw [List.zip_map'] at hsettle
  obtain ⟨hsettles, hkeys⟩ := Draft.settles_settle hsettle
  rw [List.flatMap_map] at hsettles
  exact ⟨dropped, hsettles, hfallbacks, fun r hr => ⟨haccepts r hr,
    hkeys _ (List.mem_map_of_mem hr)⟩⟩

/-- The fallbacks of a transform are those that its outputs took and the emitted records that were
dropped. -/
theorem fallbacks_of_transformed {config : PassConfig} {count fallbacks : Nat}
    (ht : step.transform? = some (name, t))
    (h : (step.transformed next config (step.edited before)).run.run rows =
      (.ok (d', count, fallbacks), rows')) :
    fallbacks + (Draft.firsts next [] (step.emissions before)).length =
      Transform.totalFallbacks
        ((step.editedTable before name).values.map (step.outputOf before name)) +
      (step.emissions before).length := by
  obtain ⟨dropped, hsettles, hcounted, -⟩ := settles_of_transformed ht h
  have hdropped := hsettles.dropped_add_firsts
  have hstart : ((step.edited before).withTable name ∅).emitted = [] :=
    (step.snapshot_edited before).2
  rw [hstart, ← emissions_eq ht] at hdropped
  omega

/-- An emission is an action, after those that emit what is earlier and put back what is not
pending, and before those that put back what is. -/
theorem Emits.exists_actions (h : step.Emits before name earlier p pending)
    (hkeys : ∀ r ∈ (step.editedTable before name).values,
      (step.outputOf before name r).record.key = r.key) :
    ∃ first last, step.actions before name = first ++ .emit p.1 p.2 :: last ∧
      first.filterMap Draft.Action.emit? = earlier ∧
      (last.filterMap Draft.Action.put?).map (·.key) = pending ∧
      ∀ r ∈ (step.editedTable before name).values, r.key ∉ pending →
        ∃ q ∈ first.filterMap Draft.Action.put?, q.key = r.key := by
  obtain ⟨done, r, rest, emitted, more, hvalues, houtput, rfl, rfl⟩ := h
  let f := step.outputOf before name
  let emits := fun emitted : List (String × Record) =>
    emitted.map fun p => Draft.Action.emit p.1 p.2
  have hsplit : step.actions before name =
      ((done.flatMap fun r => (f r).actions) ++ .put (f r).record :: emits emitted) ++
        .emit p.1 p.2 :: (emits more ++ rest.flatMap fun r => (f r).actions) := by
    unfold actions
    rw [hvalues, List.flatMap_append, List.flatMap_cons]
    change _ ++ (Draft.Action.put (f r).record :: emits (f r).emitted ++ _) = _
    rw [houtput]
    simp [emits, f]
  refine ⟨_, _, hsplit, ?_, ?_, fun q hq hnot => ?_⟩
  · rw [List.filterMap_append, filterMap_emit?_actions]
    change _ ++ (emits emitted).filterMap Draft.Action.emit? = _
    rw [filterMap_emit?_map]
  · rw [List.filterMap_append, filterMap_put?_actions, filterMap_put?_map, List.nil_append,
      List.map_map]
    refine List.map_congr_left fun q hq => hkeys q ?_
    rw [hvalues]
    exact List.mem_append_right _ (List.mem_cons_of_mem _ hq)
  · have hdone : q ∈ done ++ [r] := by
      rw [hvalues] at hq
      rcases List.mem_append.1 hq with hq | hq
      · exact List.mem_append_left _ hq
      · rcases List.mem_cons.1 hq with rfl | hq
        · exact List.mem_append_right _ List.mem_cons_self
        · exact absurd (List.mem_map_of_mem hq) hnot
    refine ⟨(f q).record, ?_, hkeys q hq⟩
    rw [List.filterMap_append, filterMap_put?_actions]
    change _ ∈ _ ++ (f r).record :: _
    rcases List.mem_append.1 hdone with hq | hq
    · exact List.mem_append_left _ (List.mem_map_of_mem hq)
    · rw [List.mem_singleton.1 hq]
      exact List.mem_append_right _ List.mem_cons_self

/-- A record that went through the transform is there once it is settled, as the transform changed
it. -/
theorem getElem?_of_settles {d : Draft} {dropped : Nat}
    (h : Draft.Settles next name d rows (step.actions before name) d' rows' dropped)
    (hkeyed : ∀ name, (before.table name).Keyed)
    (hkeys : ∀ r ∈ (step.editedTable before name).values,
      (step.outputOf before name r).record.key = r.key)
    {r : Record} (hr : r ∈ (step.editedTable before name).values) :
    (d'.table name)[r.key]? = some (step.outputOf before name r).record := by
  have hdistinct := (keyed_editedTable hkeyed step name).nodup_keys_values
  obtain ⟨done, rest, hvalues⟩ := List.append_of_mem hr
  unfold actions at h
  rw [hvalues, List.flatMap_append, List.flatMap_cons] at h
  rw [← hkeys r hr]
  refine h.get?_of_put fun q hq => ?_
  -- The records put back afterwards are those behind this one, whose keys are others.
  rw [List.append_eq, List.filterMap_append, filterMap_put?_map, filterMap_put?_actions,
    List.nil_append] at hq
  obtain ⟨r', hr', rfl⟩ := List.mem_map.1 hq
  have hmem : r' ∈ (step.editedTable before name).values := by
    rw [hvalues]
    exact List.mem_append_right _ (List.mem_cons_of_mem _ hr')
  rw [hkeys r' hmem, hkeys r hr]
  rw [hvalues, List.map_append, List.map_cons] at hdistinct
  have hbehind := (List.nodup_cons.1 (List.nodup_append.1 hdistinct).2.1).1
  intro heq
  exact hbehind (heq ▸ List.mem_map_of_mem hr')

/-- What the draft holds for a record that is emitted into a keyed entity, once the transform is
settled, if no earlier one has its key. Its key was free, and it is there, unless a pending record
has its key, which is there instead. -/
theorem Emits.settled {d : Draft} {dropped : Nat} (h : step.Emits before name earlier p pending)
    (hsettles : Draft.Settles next name d rows (step.actions before name) d' rows' dropped)
    (hkeyed : ∀ name, (before.table name).Keyed)
    (hkeys : ∀ r ∈ (step.editedTable before name).values,
      (step.outputOf before name r).record.key = r.key)
    (hstart : d.emitted = []) (hkeyedIn : Draft.keyedIn next p.1 = true)
    (hfirst : ∀ q ∈ earlier, Draft.place q ≠ Draft.place p) :
    ∃ e, next.entity? p.1 = some e ∧ (d.table p.1)[p.2.key]? = none ∧
      ((name = p.1 ∧ p.2.key ∈ pending ∧ ∃ r ∈ (step.editedTable before name).values,
          r.key = p.2.key ∧
            (d'.table name)[p.2.key]? = some (step.outputOf before name r).record) ∨
        ((name = p.1 → p.2.key ∉ pending) ∧
          (name = p.1 → ∀ r ∈ (step.editedTable before name).values, r.key ≠ p.2.key) ∧
          (d'.table p.1)[p.2.key]? = some (e.fillDefaults p.2))) := by
  obtain ⟨first, last, hactions, hearlier, hpending, hdone⟩ := h.exists_actions hkeys
  have hsplit := hsettles
  rw [hactions] at hsplit
  obtain ⟨e, he, hfree, hfreeDone, hstays⟩ :=
    hsplit.exists_of_emit hkeyedIn hstart (hearlier ▸ hfirst)
  refine ⟨e, he, hfree, ?_⟩
  by_cases hpends : name = p.1 ∧ p.2.key ∈ pending
  · obtain ⟨hname, hmem⟩ := hpends
    obtain ⟨_, _, rest, _, _, hvalues, -, -, hrest⟩ := h
    rw [hrest] at hmem
    obtain ⟨r, hr, hkey⟩ := List.mem_map.1 hmem
    have hr' : r ∈ (step.editedTable before name).values := by
      rw [hvalues]
      exact List.mem_append_right _ (List.mem_cons_of_mem _ hr)
    refine .inl ⟨hname, hrest ▸ hmem, r, hr', hkey, ?_⟩
    rw [← hkey]
    exact getElem?_of_settles hsettles hkeyed hkeys hr'
  · have hnot : name = p.1 → p.2.key ∉ pending := fun hname hmem => hpends ⟨hname, hmem⟩
    refine .inr ⟨hnot, fun hname r hr hkey => ?_, hstays fun hname q hq hkey => ?_⟩
    · obtain ⟨q, hq, hqkey⟩ := hdone r hr (hkey ▸ hnot hname)
      exact hfreeDone hname q hq (hqkey.trans hkey)
    · refine hnot hname (hpending ▸ hkey ▸ List.mem_map_of_mem hq)

end Step

namespace Registry

variable {baseline live next : Schema} {steps : List Step} {registry : Registry} {version : Nat}
  {s : Store} {step : Step} {name : String} {t : Transform} {config : PassConfig} {d₁ : Draft}
  {count fallbacks : Nat} {rows rows₁ : RowCounter} {earlier : List (String × Record)}
  {p : String × Record} {pending : List Key}

/-- The key of an emitted record that is the first under it and meets no pending record is free from
the start: the store has no record under it, unless the step clears the entity. -/
theorem settled_of_emits (hholds : s.Holds live) (hlive : live.NulFreeNames)
    (hnext : next.NulFreeNames) (ht : step.transform? = some (name, t))
    (htransformed : (step.transformed next config (step.edited (s.snapshot live))).run.run rows =
      (.ok (d₁, count, fallbacks), rows₁))
    (h : step.Emits (s.snapshot live) name earlier p pending)
    (hkeyedIn : Draft.keyedIn next p.1 = true)
    (hfirst : ∀ q ∈ earlier, Draft.place q ≠ Draft.place p) :
    ∃ e, next.entity? p.1 = some e ∧
      ((name = p.1 ∧ p.2.key ∈ pending ∧
          ∃ r ∈ (step.editedTable (s.snapshot live) name).values, r.key = p.2.key ∧
            (d₁.table name)[p.2.key]? = some (step.outputOf (s.snapshot live) name r).record) ∨
        (¬(name = p.1 ∧ p.2.key ∈ pending) ∧
          (p.1 ∉ step.clears → s.get? p.1 p.2.key = none) ∧
          (d₁.table p.1)[p.2.key]? = some (e.fillDefaults p.2))) := by
  obtain ⟨dropped, hsettles, -, haccepted⟩ := Step.settles_of_transformed ht htransformed
  obtain ⟨e, he, hfree, hcases⟩ := h.settled hsettles (s.keyed_table_snapshot live)
    (fun r hr => (haccepted r hr).2) (step.snapshot_edited _).2 hkeyedIn hfirst
  refine ⟨e, he, hcases.imp_right fun ⟨hnot, hother, hstored⟩ =>
    ⟨fun hpends => hnot hpends.1 hpends.2, fun hkept => ?_, hstored⟩⟩
  -- A record that the store has under the key would be in the edited table.
  have hname : NulFree p.1 := hnext p.1 (Schema.hasEntity_of_entity? he)
  rw [Option.eq_none_iff_forall_ne_some]
  intro r hr
  have hedited : (step.editedTable (s.snapshot live) p.1)[p.2.key]? =
      some (Edit.applyAllToRecord step.edits p.1 r) := by
    rw [← Step.table_edited, Step.getElem?_table_edited, if_neg hkept,
      hholds.getElem?_table_snapshot hlive hname, hr]
    rfl
  by_cases hsame : name = p.1
  · -- In the transformed entity it went through the transform under the key.
    rw [← hsame] at hedited
    have hkey := Step.keyed_editedTable (s.keyed_table_snapshot live) step name _ _ hedited
    exact hother hsame _ (mem_values_iff.2 ⟨_, hedited⟩) hkey
  · -- Any other table was complete when the record was emitted.
    rw [Draft.table_withTable, if_neg hsame, Step.table_edited, hedited] at hfree
    cases hfree

/-- What a committed step leaves of an emitted record that is the first under its key. -/
theorem Commits.get?_of_emits (hbuild : build baseline steps = .ok registry)
    (hnames : ∀ version schema, registry.schemaAt? version = some schema → schema.NulFreeNames)
    {report : StepReport} {s' : Store} (h : Commits registry config version s report s')
    (hs : Consistent registry version s) (hstep : registry.stepFor? version = some step)
    (ht : step.transform? = some (name, t)) (hlive : registry.schemaAt? version = some live)
    (hnext : registry.schemaAt? (version + 1) = some next)
    (hemits : step.Emits (s.snapshot live) name earlier p pending)
    (hkeyedIn : Draft.keyedIn next p.1 = true)
    (hfirst : ∀ q ∈ earlier, Draft.place q ≠ Draft.place p) :
    (∃ e, next.entity? p.1 = some e ∧ ¬(name = p.1 ∧ p.2.key ∈ pending) ∧
      (p.1 ∉ step.clears → s.get? p.1 p.2.key = none) ∧
      s'.get? p.1 p.2.key = some (e.fillDefaults p.2)) ∨
    (name = p.1 ∧ p.2.key ∈ pending ∧
      ∃ r ∈ (step.editedTable (s.snapshot live) name).values, r.key = p.2.key ∧
        s'.get? name p.2.key = some (step.outputOf (s.snapshot live) name r).record) := by
  obtain ⟨live', next', d₁, d, count, fallbacks, rows₁, hlive', hnext', hholds, -, htransformed,
    hadd, hdraft⟩ := h.exists_draft hbuild hnames hs hstep
  rw [hlive] at hlive'
  cases hlive'
  rw [hnext] at hnext'
  cases hnext'
  obtain ⟨e, he, hcases⟩ := settled_of_emits hholds (hnames _ _ hlive) (hnames _ _ hnext) ht
    htransformed hemits hkeyedIn hfirst
  have hname : NulFree p.1 := hnames _ _ hnext p.1 (Schema.hasEntity_of_entity? he)
  -- The inserts change nothing that the draft holds by then.
  have hkept : ∀ key r, (d₁.table p.1)[key]? = some r → s'.get? p.1 key = some r := by
    intro key r hr
    obtain ⟨added, -, -, -, htable⟩ := (Draft.grows_addAll hadd).added
    rw [hdraft p.1 hname]
    exact (htable p.1 key r).2 (.inl hr)
  rcases hcases with ⟨rfl, hmem, r, hr, hkey, hstored⟩ | ⟨hnot, hfree, hstored⟩
  · exact .inr ⟨rfl, hmem, r, hr, hkey, hkept _ _ hstored⟩
  · exact .inl ⟨e, he, hnot, hfree, hkept _ _ hstored⟩

/-- What a committed step counts as fallbacks: those that its transform took, and the emitted
records that were dropped. -/
theorem Commits.fallbacks_add_firsts (hbuild : build baseline steps = .ok registry)
    (hnames : ∀ version schema, registry.schemaAt? version = some schema → schema.NulFreeNames)
    {report : StepReport} {s' : Store} (h : Commits registry config version s report s')
    (hs : Consistent registry version s) (hstep : registry.stepFor? version = some step)
    (ht : step.transform? = some (name, t)) (hlive : registry.schemaAt? version = some live)
    (hnext : registry.schemaAt? (version + 1) = some next) :
    report.fallbacks + (Draft.firsts next [] (step.emissions (s.snapshot live))).length =
      Transform.totalFallbacks ((step.editedTable (s.snapshot live) name).values.map
        (step.outputOf (s.snapshot live) name)) +
      (step.emissions (s.snapshot live)).length := by
  obtain ⟨live', next', d₁, d, count, fallbacks, rows₁, hlive', hnext', -, -, htransformed, hadd,
    -⟩ := h.exists_draft hbuild hnames hs hstep
  rw [hlive] at hlive'
  cases hlive'
  rw [hnext] at hnext'
  cases hnext'
  rw [(h.report_eq hbuild hstep hlive hnext htransformed hadd).2.2.2.2]
  exact Step.fallbacks_of_transformed ht htransformed

/-- A step whose transform accepts every record, but emits one that is the first under the key of a
record from before the step that is neither cleared nor pending, refuses a record. -/
theorem refusesRecord_of_emits (hbuild : build baseline steps = .ok registry)
    (hnames : ∀ version schema, registry.schemaAt? version = some schema → schema.NulFreeNames)
    (hs : Consistent registry version s) (hstep : registry.stepFor? version = some step)
    (ht : step.transform? = some (name, t)) (hlive : registry.schemaAt? version = some live)
    (hnext : registry.schemaAt? (version + 1) = some next)
    (hemits : step.Emits (s.snapshot live) name earlier p pending)
    (hkeyedIn : Draft.keyedIn next p.1 = true)
    (hfirst : ∀ q ∈ earlier, Draft.place q ≠ Draft.place p) (hkept : p.1 ∉ step.clears)
    (htaken : s.get? p.1 p.2.key ≠ none) (hnot : ¬(name = p.1 ∧ p.2.key ∈ pending))
    (haccepts : ∀ r ∈ (step.editedTable (s.snapshot live) name).values,
      ∃ output, t r ⟨s.snapshot live, name⟩ = .ok output) (journal : Journal) :
    ∃ e s', registry.stepFrom config version journal s = (.error e, s') ∧
      e.refusesRecord = true := by
  obtain ⟨schema, hschema, -, hfp, hholds⟩ := hs.live
  rw [hlive] at hschema
  cases hschema
  obtain ⟨rfl, -⟩ := stepFor?_eq_some hbuild hstep
  have htarget : registry.schemaAt? step.target = some next := hnext
  -- The transform cannot be settled, since the key would have been free.
  rcases htransformed : (step.transformed next config (step.edited (s.snapshot live))).run.run
    s.rows with ⟨e | ⟨d₁, count, fallbacks⟩, rows₁⟩
  · refine ⟨e, { s with rows := rows₁ }, ?_, ?_⟩
    · have hplan : (step.plan live next config s).run.run s.rows = (.error e, rows₁) := by
        unfold Step.plan
        exact Drawing.bind_error_iff.2 (.inl htransformed)
      exact (Raises.plan hstep hlive htarget hfp hplan).stepFrom_eq hbuild journal
    · refine Step.refusesRecord_of_transformed_error (fun name' t' ht' r hr => ?_) htransformed
      rw [ht] at ht'
      cases ht'
      rw [Step.table_edited] at hr
      rw [(step.snapshot_edited _).1]
      exact haccepts r hr
  · obtain ⟨e, he, ⟨hname, hmem, -⟩ | ⟨-, hfree, -⟩⟩ := settled_of_emits hholds (hnames _ _ hlive)
      (hnames _ _ hnext) ht htransformed hemits hkeyedIn hfirst
    · exact absurd ⟨hname, hmem⟩ hnot
    · exact absurd (hfree hkept) htaken

/-- **What becomes of emitted records.** Over a store that is consistent at the version of a step
with a transform, let the transform emit a record into a keyed entity.

If the step commits, the record repeats the key of an earlier one, or it is stored with its defaults
filled under a key that was free, or it was emitted into the transformed entity itself under the key
of a record that was still to be put back, which is then stored in its place. The report counts as
fallbacks those that the transform took and the emitted records that were dropped.

If the record does not repeat a key and has the key of a record from before the step that is not
cleared and not still to be put back, and the transform accepts every record, then the step fails on
an invalid record, or because the row numbers are used up. -/
theorem emissions_of_step (hbuild : build baseline steps = .ok registry)
    (hbaseline : baseline.NulFreeNames)
    (hcreated : ∀ step ∈ steps, ∀ e, Edit.createTable e ∈ step.edits → NulFree e.name)
    (hs : Consistent registry version s) (hstep : registry.stepFor? version = some step)
    (ht : step.transform? = some (name, t)) (config : PassConfig) (journal : Journal) :
    ∃ live next, registry.schemaAt? version = some live ∧
      registry.schemaAt? (version + 1) = some next ∧
      (∀ report journal' s', registry.stepFrom config version journal s =
          (.ok (report, journal'), s') →
        report.fallbacks + (Draft.firsts next [] (step.emissions (s.snapshot live))).length =
          Transform.totalFallbacks ((step.editedTable (s.snapshot live) name).values.map
            (step.outputOf (s.snapshot live) name)) +
          (step.emissions (s.snapshot live)).length ∧
        ∀ earlier p pending, step.Emits (s.snapshot live) name earlier p pending →
          Draft.keyedIn next p.1 = true →
          (∃ q ∈ earlier, Draft.place q = Draft.place p) ∨
          (∃ e, next.entity? p.1 = some e ∧ ¬(name = p.1 ∧ p.2.key ∈ pending) ∧
            (p.1 ∉ step.clears → s.get? p.1 p.2.key = none) ∧
            s'.get? p.1 p.2.key = some (e.fillDefaults p.2)) ∨
          (name = p.1 ∧ p.2.key ∈ pending ∧
            ∃ r ∈ (step.editedTable (s.snapshot live) name).values, r.key = p.2.key ∧
              s'.get? name p.2.key = some (step.outputOf (s.snapshot live) name r).record)) ∧
      ∀ earlier p pending, step.Emits (s.snapshot live) name earlier p pending →
        Draft.keyedIn next p.1 = true → (∀ q ∈ earlier, Draft.place q ≠ Draft.place p) →
        p.1 ∉ step.clears → s.get? p.1 p.2.key ≠ none → ¬(name = p.1 ∧ p.2.key ∈ pending) →
        (∀ r ∈ (step.editedTable (s.snapshot live) name).values,
          ∃ output, t r ⟨s.snapshot live, name⟩ = .ok output) →
        ∃ e s', registry.stepFrom config version journal s = (.error e, s') ∧
          ((∃ entity key reason, e = .invalidRecord entity key reason) ∨
            e = .storage .rowsExhausted) := by
  have hnames : ∀ version schema, registry.schemaAt? version = some schema → schema.NulFreeNames :=
    fun _ _ hschema => names_of_schemaAt? hbuild NulFree hbaseline hcreated hschema
  obtain ⟨rfl, -⟩ := stepFor?_eq_some hbuild hstep
  obtain ⟨live, next₀, hlive, -, hnext, -⟩ := exists_accepts hbuild hstep
  refine ⟨live, _, hlive, hnext, fun report journal' s' hcommit => ?_,
    fun earlier p pending hemits hkeyedIn hfirst hkept htaken hnot haccepts => ?_⟩
  · rcases stepFrom_cases registry config step.source journal s with
      ⟨report', s₁, j, hcommits, hrun, -⟩ | ⟨e, rows, -, hrun⟩
    · rw [hcommit] at hrun
      cases hrun
      refine ⟨hcommits.fallbacks_add_firsts hbuild hnames hs hstep ht hlive hnext,
        fun earlier p pending hemits hkeyedIn => ?_⟩
      by_cases hrepeats : ∃ q ∈ earlier, Draft.place q = Draft.place p
      · exact .inl hrepeats
      · have hfirst : ∀ q ∈ earlier, Draft.place q ≠ Draft.place p :=
          fun q hq hplace => hrepeats ⟨q, hq, hplace⟩
        exact .inr (hcommits.get?_of_emits hbuild hnames hs hstep ht hlive hnext hemits hkeyedIn
          hfirst)
    · rw [hcommit] at hrun
      cases hrun
  · obtain ⟨e, s', hrun, hrefuses⟩ := refusesRecord_of_emits hbuild hnames hs hstep ht hlive hnext
      hemits hkeyedIn hfirst hkept htaken hnot haccepts journal
    exact ⟨e, s', hrun, MigrationError.cases_of_refusesRecord hrefuses⟩

/-- Tasks by number, with a note. -/
def tasks : Schema := .ofList 0 [⟨"Task", [.primary "id" .int, .optional "note" .str]⟩]

theorem tasks_wellFormed : tasks.WellFormed :=
  Schema.wellFormed_ofList (by decide) (by decide) (by decide)

theorem tasks_nulFreeNames : tasks.NulFreeNames := Schema.nulFreeNames_ofList (by decide)

/-- A task with a note. -/
def task (id : Int64) (note : String) : Record :=
  (Record.keyed "id" (.int id)).set "note" (.str note)

/-- A store with two old tasks. -/
def twoTasks : Store :=
  ((Store.ofSchema tasks 0).putRecord "Task" (task 1 "old")).putRecord "Task" (task 2 "old")

theorem twoTasks_holds : twoTasks.Holds tasks :=
  ((Store.holds_ofSchema tasks 0).putRecord rfl rfl).putRecord rfl rfl

/-- A step in which one task emits a new task under a number. -/
def copying (source target : Int64) : Step :=
  (Step.ofSource 0 "copying").withTransform "Task" fun r _ =>
    .ok (if r.key = .int source then (Transform.Output.ofRecord r).emit "Task" (task target "new")
      else .ofRecord r)

/-- The first of two tasks emits a third one, which is stored. -/
theorem emissions_of_step_copying :
    ∃ registry report journal s' e, build tasks [copying 1 3] = .ok registry ∧
      Consistent registry 0 twoTasks ∧
      (copying 1 3).Emits (twoTasks.snapshot tasks) "Task" [] ("Task", task 3 "new") [.int 2] ∧
      registry.stepFrom .standard 0 (.begin 0 1) twoTasks = (.ok (report, journal), s') ∧
      tasks.entity? "Task" = some e ∧
      s'.get? "Task" (.int 3) = some (e.fillDefaults (task 3 "new")) := by
  obtain ⟨registry, report, journal, s', hbuild, hstep, hs, hcommit, hbase, htarget⟩ :
      ∃ registry report journal s', build tasks [copying 1 3] = .ok registry ∧
        registry.stepFor? 0 = some (copying 1 3) ∧ Consistent registry 0 twoTasks ∧
        registry.stepFrom .standard 0 (.begin 0 1) twoTasks = (.ok (report, journal), s') ∧
        registry.schemaAt? 0 = some tasks ∧ registry.schemaAt? 1 = some (atVersion tasks 1) :=
    ⟨_, _, _, _, rfl, rfl, ⟨rfl, tasks, rfl, rfl, rfl, twoTasks_holds⟩,
      stepFrom_of_plan_ok rfl rfl rfl rfl rfl _, rfl, rfl⟩
  have hemits : (copying 1 3).Emits (twoTasks.snapshot tasks) "Task" [] ("Task", task 3 "new")
      [.int 2] := ⟨[], task 1 "old", [task 2 "old"], [], [], rfl, rfl, rfl, rfl⟩
  have hcreated : ∀ step ∈ [copying 1 3], ∀ e, Edit.createTable e ∈ step.edits →
      NulFree e.name := by
    intro step hmem e he
    cases List.mem_singleton.1 hmem
    cases he
  obtain ⟨live, next, hlive, hnext, hkept, -⟩ := emissions_of_step hbuild tasks_nulFreeNames
    hcreated hs hstep rfl .standard (.begin 0 1)
  obtain rfl : tasks = live := Option.some.inj (hbase.symm.trans hlive)
  obtain rfl : atVersion tasks 1 = next := Option.some.inj (htarget.symm.trans hnext)
  rcases (hkept report journal s' hcommit).2 _ _ _ hemits rfl with
    ⟨q, hq, -⟩ | ⟨e, he, -, -, hstored⟩ | ⟨-, hmem, -⟩
  · cases hq
  · exact ⟨registry, report, journal, s', e, hbuild, hs, hemits, hcommit, he, hstored⟩
  · exact absurd hmem (by decide)

/-- A task that is emitted under the number of a task that comes after the emitting one is lost:
the old task is put back over it, and nothing is counted. Under the number of a task that comes
before, the step is refused. -/
theorem exists_emission_lost :
    ∃ registry report journal s', build tasks [copying 1 2] = .ok registry ∧
      tasks.WellFormed ∧ tasks.NulFreeNames ∧ Consistent registry 0 twoTasks ∧
      registry.stepFor? 0 = some (copying 1 2) ∧
      (copying 1 2).Emits (twoTasks.snapshot tasks) "Task" [] ("Task", task 2 "new") [.int 2] ∧
      twoTasks.get? "Task" (.int 2) = some (task 2 "old") ∧
      registry.stepFrom .standard 0 (.begin 0 1) twoTasks = (.ok (report, journal), s') ∧
      report.fallbacks = 0 ∧ s'.get? "Task" (.int 2) = some (task 2 "old") ∧
      ∃ other, build tasks [copying 2 1] = .ok other ∧
        (other.stepFrom .standard 0 (.begin 0 1) twoTasks).1 =
          .error (.invalidRecord "Task" (.int 1) "duplicate key") := by
  refine ⟨_, _, _, _, rfl, tasks_wellFormed, tasks_nulFreeNames,
    ⟨rfl, tasks, rfl, rfl, rfl, twoTasks_holds⟩, rfl,
    ⟨[], task 1 "old", [task 2 "old"], [], [], rfl, rfl, rfl, rfl⟩, rfl,
    stepFrom_of_plan_ok rfl rfl rfl rfl rfl _, rfl, ?_, _, rfl, ?_⟩
  · decide +kernel
  · decide +kernel

end Registry

end Strata
