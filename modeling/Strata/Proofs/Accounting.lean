import Strata.Proofs.Counts
import Mathlib.Data.Finset.Card

/-!
# The account of a step

The numbers that a step reports are counted in different phases: the records that went through the
transform and its fallbacks during the pass, the added records as they are added to the draft, and
the written and deleted ones when the draft is turned into writes. `Step.Accounts` says what they
are numbers of, by the places that hold a record before and after the step, and that nothing is lost
between them: the places after the step are those before it, without the cleared ones, and one for
each added record. Every committed step over a consistent store reports such numbers
(`Registry.accounts_of_step`).

The records of a table are counted by their places (`IsPlacesOf.card_filter`), and so are the writes
of a draft, of which there is one for each place (`Draft.nodup_places`).
-/

namespace Strata

/-! ## Places that hold a record -/

/-- The places of a store that hold a record, as its storage keys tell. -/
def Store.places (s : Store) : Finset (String × Key) :=
  (s.records.keys.filterMap StorageKey.decode?).toFinset

/-- A place of an entity is one if there is a record under its key. -/
theorem Store.mem_places_iff {s : Store} {name : String} {key : Key} :
    (name, key) ∈ s.places ↔ NulFree name ∧ (s.get? name key).isSome = true := by
  have hbytes : ∀ bytes, bytes ∈ s.records.keys ↔ (s.records[bytes]?).isSome = true := by
    intro bytes
    rw [Std.ExtTreeMap.mem_keys, Std.ExtTreeMap.mem_iff_contains, contains_eq_isSome]
  unfold places
  rw [List.mem_toFinset, List.mem_filterMap]
  constructor
  · rintro ⟨bytes, hmem, hdecode⟩
    obtain ⟨hname, rfl⟩ := StorageKey.eq_encode_of_decode? hdecode
    exact ⟨hname, (hbytes _).1 hmem⟩
  · rintro ⟨hname, hsome⟩
    exact ⟨_, (hbytes _).2 hsome, StorageKey.decode?_encode hname key⟩

/-- In a filed store there is one place for each record. -/
theorem Store.Filed.card_places {s : Store} (h : s.Filed) : s.places.card = s.records.size := by
  have hnodup : (s.records.keys.filterMap StorageKey.decode?).Nodup := by
    refine List.Nodup.filterMap (fun bytes bytes' p hp hp' => ?_) Std.ExtTreeMap.nodup_keys
    obtain ⟨-, rfl⟩ := StorageKey.eq_encode_of_decode? (Option.mem_def.1 hp)
    obtain ⟨-, rfl⟩ := StorageKey.eq_encode_of_decode? (Option.mem_def.1 hp')
    rfl
  unfold places
  rw [List.toFinset_card_of_nodup hnodup, ← Std.ExtTreeMap.length_keys,
    List.filterMap_length_eq_length]
  intro bytes hmem
  rw [Std.ExtTreeMap.mem_keys, Std.ExtTreeMap.mem_iff_contains, contains_eq_isSome] at hmem
  obtain ⟨r, hr⟩ := Option.isSome_iff_exists.1 hmem
  obtain ⟨entity, hname, rfl⟩ := h bytes r hr
  rw [StorageKey.decode?_encode hname]
  rfl

/-- Places are those that hold a record in a family of tables. -/
def IsPlacesOf (table : String → Table) (places : Finset (String × Key)) : Prop :=
  ∀ name key, (name, key) ∈ places ↔ (table name).contains key = true

variable {old new : Finset (String × Key)} {next : Schema} {before : Snapshot} {step : Step}
  {d d' : Draft} {rows rows' : RowCounter}

/-- A snapshot of a schema has no records of an entity whose name holds the null character. -/
theorem Store.table_snapshot_of_not_nulFree (s : Store) {live : Schema} (hlive : live.NulFreeNames)
    {name : String} (hname : ¬NulFree name) : (s.snapshot live).table name = ∅ :=
  s.table_snapshot_of_absent (Bool.eq_false_iff.2 fun hhas => hname (hlive name hhas))

/-- The places of a store that holds the records of a schema are those of the snapshot of it. -/
theorem Store.Holds.isPlacesOf {s : Store} {live : Schema} (h : s.Holds live)
    (hlive : live.NulFreeNames) : IsPlacesOf (s.snapshot live).table s.places := by
  intro name key
  rw [mem_places_iff]
  by_cases hname : NulFree name
  · rw [and_iff_right hname, contains_eq_isSome, h.getElem?_table_snapshot hlive hname]
  · rw [s.table_snapshot_of_not_nulFree hlive hname]
    simp [hname]

/-- The places of a store that a draft was committed to are those of the draft. -/
theorem Step.Covers.isPlacesOf {s s' : Store} {live : Schema}
    (h : Covers step next (s.snapshot live) d) (hlive : live.NulFreeNames)
    (hnext : next.NulFreeNames)
    (hdraft : ∀ name, NulFree name → ∀ key, s'.get? name key = (d.table name)[key]?) :
    IsPlacesOf d.table s'.places := by
  intro name key
  rw [Store.mem_places_iff]
  by_cases hname : NulFree name
  · rw [and_iff_right hname, hdraft name hname, contains_eq_isSome]
  · have hnot : ¬d.Touched name := fun htouched => hname (hnext name (h.known name htouched))
    rw [Draft.table_of_not_touched hnot, h.snapshot, s.table_snapshot_of_not_nulFree hlive hname]
    simp [hname]

/-- There are as many places of an entity as its table has records. -/
theorem IsPlacesOf.card_filter {table : String → Table} (h : IsPlacesOf table old)
    (name : String) : (old.filter (·.1 = name)).card = (table name).size := by
  have hnodup : ((table name).keys.map (Prod.mk name)).Nodup :=
    Std.ExtTreeMap.nodup_keys.map (Prod.mk_right_injective name)
  have hplaces : old.filter (·.1 = name) = ((table name).keys.map (Prod.mk name)).toFinset := by
    ext ⟨other, key⟩
    simp only [Finset.mem_filter, h other key, List.mem_toFinset, List.mem_map,
      Std.ExtTreeMap.mem_keys, Std.ExtTreeMap.mem_iff_contains, Prod.mk.injEq]
    constructor
    · rintro ⟨hkey, rfl⟩
      exact ⟨key, hkey, rfl, rfl⟩
    · rintro ⟨key, hkey, rfl, rfl⟩
      exact ⟨hkey, rfl⟩
  rw [hplaces, List.toFinset_card_of_nodup hnodup, List.length_map, Std.ExtTreeMap.length_keys]

/-- The edited tables have the places of the old ones, but for those that are cleared. -/
theorem Step.isPlacesOf_editedTable (hold : IsPlacesOf before.table old) :
    IsPlacesOf (step.editedTable before) (old.filter (·.1 ∉ step.clears)) := by
  intro name key
  unfold editedTable
  rw [Finset.mem_filter, hold, Std.ExtTreeMap.contains_map]
  by_cases hclear : name ∈ step.clears
  · simp [hclear]
  · simp [hclear]

/-- The settled tables have the places of the edited ones. -/
theorem Step.isPlacesOf_settledTable (hold : IsPlacesOf before.table old) :
    IsPlacesOf (step.settledTable before) (old.filter (·.1 ∉ step.clears)) := by
  intro name key
  unfold settledTable
  rw [isPlacesOf_editedTable hold, Std.ExtTreeMap.contains_map]

/-- A draft that grows has one more place for each added record. -/
theorem Draft.Grows.card_places {added : List (String × Record)}
    (h : Grows next d rows added d' rows') (hold : IsPlacesOf d.table old)
    (hnew : IsPlacesOf d'.table new) : new.card = old.card + added.length := by
  obtain ⟨completed, hcompleted, hnodup, hfree, htable⟩ := h.added
  have hunion : new = old ∪ (completed.map place).toFinset := by
    ext ⟨name, key⟩
    rw [hnew, Finset.mem_union, hold, List.mem_toFinset, contains_eq_isSome, contains_eq_isSome,
      Option.isSome_iff_exists, Option.isSome_iff_exists]
    simp only [htable, exists_or, List.mem_map, place, Prod.mk.injEq]
    refine or_congr_right ⟨?_, ?_⟩
    · rintro ⟨r, hmem, hkey⟩
      exact ⟨_, hmem, rfl, hkey⟩
    · rintro ⟨⟨_, r⟩, hmem, rfl, hkey⟩
      exact ⟨r, hmem, hkey⟩
  have hdisjoint : Disjoint old (completed.map place).toFinset := by
    rw [Finset.disjoint_left]
    rintro p hp hmem
    obtain ⟨q, hq, rfl⟩ := List.mem_map.1 (List.mem_toFinset.1 hmem)
    have hkey := (hold _ _).1 hp
    rw [contains_eq_isSome, hfree q hq] at hkey
    cases hkey
  rw [hunion, Finset.card_union_of_disjoint hdisjoint, List.toFinset_card_of_nodup hnodup,
    List.length_map, hcompleted.length_eq]

/-! ## The writes of a plan -/

/-- Writes to different places are as many as their places. -/
theorem Write.length_eq_card {writes : List Write} (hsome : ∀ w ∈ writes, w.place?.isSome = true)
    (hnodup : (writes.filterMap place?).Nodup) {places : Finset (String × Key)}
    (hplaces : ∀ p, p ∈ places ↔ ∃ w ∈ writes, w.place? = some p) :
    writes.length = places.card := by
  have hset : places = (writes.filterMap place?).toFinset := by
    ext p
    rw [hplaces, List.mem_toFinset, List.mem_filterMap]
  rw [hset, List.toFinset_card_of_nodup hnodup, List.filterMap_length_eq_length.2 hsome]

namespace Draft

/-- No place is listed twice if no entity and no key of it is. -/
theorem nodup_places {α : Type} {xs : List α} {name : α → String} {keys : α → List Key}
    (hnames : (xs.map name).Nodup) (hkeys : ∀ x ∈ xs, (keys x).Nodup) :
    (xs.flatMap fun x => (keys x).map (Prod.mk (name x))).Nodup := by
  refine List.nodup_flatMap.2 ⟨fun x hx => (hkeys x hx).map (Prod.mk_right_injective _), ?_⟩
  refine (List.pairwise_map.1 hnames).imp fun hne p hp hp' => ?_
  obtain ⟨_, -, rfl⟩ := List.mem_map.1 hp
  obtain ⟨_, -, heq⟩ := List.mem_map.1 hp'
  exact hne (congrArg Prod.fst heq).symm

/-- No place is deleted twice. -/
theorem nodup_deletions (d : Draft) : (d.deletions.filterMap Write.place?).Nodup := by
  have hplaces : d.deletions.filterMap Write.place? = d.cleared.toList.flatMap fun name =>
      ((d.snapshot.keys name).filter fun key => !(d.table name).contains key).map
        (Prod.mk name) := by
    unfold deletions
    rw [List.filterMap_flatMap]
    refine List.flatMap_congr fun name _ => ?_
    rw [List.filterMap_map]
    exact congrFun List.filterMap_eq_map _
  have hnames : (d.cleared.toList.map id).Nodup := by
    rw [List.map_id]
    exact Std.ExtTreeSet.distinct_toList.imp fun hne heq =>
      hne (Std.LawfulEqCmp.compare_eq_iff_eq.2 heq)
  rw [hplaces]
  exact nodup_places hnames fun name _ => Std.ExtTreeMap.nodup_keys.filter _

/-- No place is written twice if every record is under its own key. -/
theorem nodup_puts (hkeyed : ∀ name, (d.table name).Keyed) :
    (d.puts.filterMap Write.place?).Nodup := by
  have hplaces : d.puts.filterMap Write.place? = d.tables.toList.flatMap fun p =>
      (p.2.values.map (·.key)).map (Prod.mk p.1) := by
    unfold puts
    rw [List.filterMap_flatMap]
    refine List.flatMap_congr fun p _ => ?_
    rw [List.filterMap_map, List.map_map]
    exact congrFun List.filterMap_eq_map _
  have hnames : (d.tables.toList.map (·.1)).Nodup := by
    rw [Std.ExtTreeMap.map_fst_toList_eq_keys]
    exact Std.ExtTreeMap.nodup_keys
  rw [hplaces]
  refine nodup_places hnames fun p hp => ?_
  have htable : d.table p.1 = p.2 := by
    unfold table
    rw [Std.ExtTreeMap.mem_toList_iff_getElem?_eq_some.1 hp]
    rfl
  exact htable ▸ (hkeyed p.1).nodup_keys_values

end Draft

namespace Step

/-- The deleted records are those whose places hold none after the step. -/
theorem Covers.length_deletions (h : Covers step next before d) (hold : IsPlacesOf before.table old)
    (hnew : IsPlacesOf d.table new) : d.deletions.length = (old \ new).card := by
  refine Write.length_eq_card (fun w hw => ?_) d.nodup_deletions fun p => ?_
  · obtain ⟨_, _, -, -, -, rfl⟩ := Draft.mem_deletions_iff.1 hw
    rfl
  · obtain ⟨name, key⟩ := p
    rw [Finset.mem_sdiff, hold, hnew]
    constructor
    · rintro ⟨hkey, hgone⟩
      have hclear : name ∈ step.clears := Decidable.of_not_not fun hnot =>
        hgone (h.kept name hnot key hkey)
      refine ⟨.delete name key, Draft.mem_deletions_iff.2 ⟨name, key, (h.cleared name).2 hclear, ?_,
        Bool.eq_false_iff.2 hgone, rfl⟩, rfl⟩
      rw [h.snapshot]
      exact hkey
    · rintro ⟨w, hw, hplace⟩
      obtain ⟨_, _, -, hkey, hgone, rfl⟩ := Draft.mem_deletions_iff.1 hw
      cases hplace
      rw [h.snapshot] at hkey
      exact ⟨hkey, Bool.eq_false_iff.1 hgone⟩

/-- The written records are those that the touched tables hold. -/
theorem Covers.length_puts (h : Covers step next before d) (hnew : IsPlacesOf d.table new) :
    d.puts.length = (new.filter fun p => d.Touched p.1).card := by
  refine Write.length_eq_card (fun w hw => ?_) (Draft.nodup_puts h.keyed) fun p => ?_
  · obtain ⟨_, _, -, -, rfl⟩ := Draft.mem_puts_iff.1 hw
    rfl
  · obtain ⟨name, key⟩ := p
    rw [Finset.mem_filter, hnew, contains_eq_isSome, Option.isSome_iff_exists]
    constructor
    · rintro ⟨⟨r, hr⟩, htouched⟩
      obtain rfl := h.keyed name key r hr
      exact ⟨.put name r, Draft.mem_puts_iff.2 ⟨name, r, htouched,
        (h.keyed name).mem_values_iff.2 hr, rfl⟩, rfl⟩
    · rintro ⟨w, hw, hplace⟩
      obtain ⟨_, r, htouched, hr, rfl⟩ := Draft.mem_puts_iff.1 hw
      cases hplace
      exact ⟨⟨r, (h.keyed name).mem_values_iff.1 hr⟩, htouched⟩

/-! ## Accounts -/

instance (step : Step) (before : Snapshot) (name : String) :
    Decidable (step.Concerns before name) :=
  decidable_of_iff (name ∈ step.clears ∨ (∃ edit ∈ step.edits, edit.entity = name) ∨
    step.transform?.map (·.1) = some name ∨ (∃ p ∈ step.emissions before, p.1 = name) ∨
      ∃ p ∈ step.inserts, p.1 = name) (by rw [Concerns, exists_transform_iff])

/-- What a step reports the numbers of, given the places that hold a record before and after it. -/
structure Accounts (step : Step) (next : Schema) (before : Snapshot)
    (old new : Finset (String × Key)) (report : StepReport) : Prop where
  /-- Deleted are the records whose places hold none afterwards. -/
  deleted : report.deleted = (old \ new).card
  /-- A place of an entity that is not cleared keeps holding a record. -/
  kept : ∀ p ∈ old, p.1 ∉ step.clears → p ∈ new
  /-- Added are the emitted records that repeat no key, and the inserted ones. -/
  added : report.added =
    (Draft.firsts next [] (step.emissions before)).length + step.inserts.length
  /-- The records after the step are those before it, without the cleared and with the added
  ones. -/
  balance : new.card + (old.filter (·.1 ∈ step.clears)).card = old.card + report.added
  /-- Transformed are the records of the entity of the transform, unless they are cleared. -/
  transformed : report.transformed = (old.filter fun p =>
    step.transform?.map (·.1) = some p.1 ∧ p.1 ∉ step.clears).card
  /-- Written are all records afterwards of the entities that the step concerns. -/
  written : report.written = (new.filter fun p => step.Concerns before p.1).card
  /-- Fallbacks are those that the transform took, and the emitted records that repeat a key. -/
  fallbacks : report.fallbacks + (Draft.firsts next [] (step.emissions before)).length =
    Transform.totalFallbacks (step.outputs before) + (step.emissions before).length

/-- There is an output for each record of the entity of the transform, unless they are cleared. -/
theorem length_outputs (hold : IsPlacesOf before.table old) :
    (step.outputs before).length = (old.filter fun p =>
      step.transform?.map (·.1) = some p.1 ∧ p.1 ∉ step.clears).card := by
  unfold outputs
  split
  · next entity t ht =>
    have hfilter : (old.filter fun p =>
        step.transform?.map (·.1) = some p.1 ∧ p.1 ∉ step.clears) =
        (old.filter (·.1 ∉ step.clears)).filter (·.1 = entity) := by
      rw [Finset.filter_filter, ht]
      refine Finset.filter_congr fun p _ => ?_
      rw [Option.map_some, Option.some_inj, eq_comm, and_comm]
    rw [hfilter, (isPlacesOf_editedTable hold).card_filter, List.length_map,
      values_eq_map_toList, List.length_map, Std.ExtTreeMap.length_toList]
  · next ht => simp [ht]

/-- A report that counts what the draft of a plan counts accounts for the records. -/
theorem accounts_of_plan {s : Store} {live : Schema} {version : Nat} {config : PassConfig}
    {d₁ : Draft} {count fallbacks : Nat} {rows₁ : RowCounter} {report : StepReport}
    (haccepts : Registry.Accepts live step next)
    (hother : ∀ name t, step.transform? = some (name, t) → ∀ r cx output, t r cx = .ok output →
      ∀ p ∈ output.emitted, p.1 ≠ name)
    (htransformed : (step.transformed (Registry.atVersion next version) config
      (step.edited (s.snapshot live))).run.run rows = (.ok (d₁, count, fallbacks), rows₁))
    (hadd : (d₁.addAll (Registry.atVersion next version) step.inserts).run.run rows₁ =
      (.ok d, rows'))
    (hreport : report.transformed = count ∧ report.added = d.added ∧
      report.written = d.puts.length ∧ report.deleted = d.deletions.length ∧
      report.fallbacks = fallbacks)
    (hold : IsPlacesOf (s.snapshot live).table old) (hnew : IsPlacesOf d.table new) :
    step.Accounts (Registry.atVersion next version) (s.snapshot live) old new report := by
  have hcovers := covers_of_plan haccepts htransformed hadd
  obtain ⟨hadded, -⟩ := touched_of_plan htransformed hadd
  obtain ⟨hcount, hfallbacks⟩ := counted_of_transformed htransformed
  obtain ⟨hreported, hreportAdded, hwritten, hdeleted, hreportFallbacks⟩ := hreport
  refine ⟨?_, ?_, ?_, ?_, ?_, ?_, ?_⟩
  · rw [hdeleted, hcovers.length_deletions hold hnew]
  · rintro ⟨name, key⟩ hp hclear
    exact (hnew name key).2 (hcovers.kept name hclear key ((hold name key).1 hp))
  · rw [hreportAdded, hadded]
  · -- The draft has grown from the settled tables, which have the places that are not cleared.
    obtain ⟨⟨base, hbase, hemitted⟩, -⟩ :=
      grows_transformed (s.keyed_table_snapshot live) hother htransformed
    have hsettled : IsPlacesOf base.table (old.filter (·.1 ∉ step.clears)) := by
      intro name key
      rw [hbase]
      exact isPlacesOf_settledTable hold name key
    have hcard := (hemitted.trans (Draft.grows_addAll hadd)).card_places hsettled hnew
    have hsplit := Finset.card_filter_add_card_filter_not (s := old) (·.1 ∈ step.clears)
    rw [List.length_append] at hcard
    omega
  · rw [hreported, hcount, length_outputs hold]
  · rw [hwritten, hcovers.length_puts hnew]
    refine congrArg Finset.card (Finset.filter_congr fun p hp => ?_)
    exact touched_iff_concerns haccepts htransformed hadd ((hnew p.1 p.2).1 hp)
  · rw [hreportFallbacks, hfallbacks]

end Step

namespace Registry

/-- The live schema of a store, its fingerprint and its records are those of a version; the store
may be stamped otherwise. -/
def MatchesAt (registry : Registry) (version : Nat) (s : Store) : Prop :=
  ∃ schema, registry.schemaAt? version = some schema ∧ s.schema? = some schema ∧
    s.fingerprint? = some schema.fingerprint ∧ s.Holds schema

variable {baseline : Schema} {steps : List Step} {registry : Registry} {version : Nat}
  {s s' : Store} {step : Step}

/-- **The counts of a step.** Let the live schema, the fingerprint and the records of a store be
those of a version, whose step has a transform that emits into other entities than its own. If the
step commits, it reports the numbers that `Step.Accounts` asks for, of the places that hold a record
before and after it. There is one such place for each record. -/
theorem accounts_of_step (hbuild : build baseline steps = .ok registry)
    (hbaseline : baseline.NulFreeNames)
    (hcreated : ∀ step ∈ steps, ∀ e, Edit.createTable e ∈ step.edits → NulFree e.name)
    (hs : registry.MatchesAt version s) (hstep : registry.stepFor? version = some step)
    (hother : ∀ name t, step.transform? = some (name, t) → ∀ r cx output, t r cx = .ok output →
      ∀ p ∈ output.emitted, p.1 ≠ name)
    {config : PassConfig} {journal journal' : Journal} {report : StepReport}
    (hcommit : registry.stepFrom config version journal s = (.ok (report, journal'), s')) :
    ∃ live next, registry.schemaAt? version = some live ∧
      registry.schemaAt? (version + 1) = some next ∧
      (∀ name t, step.transform? = some (name, t) →
        ∀ r ∈ (step.editedTable (s.snapshot live) name).values, ∃ output,
          t r ⟨s.snapshot live, name⟩ = .ok output ∧ output.record.key = r.key) ∧
      s.places.card = s.records.size ∧ s'.places.card = s'.records.size ∧
      step.Accounts next (s.snapshot live) s.places s'.places report := by
  have hnames : ∀ version schema, registry.schemaAt? version = some schema → schema.NulFreeNames :=
    fun _ _ hschema => names_of_schemaAt? hbuild NulFree hbaseline hcreated hschema
  obtain ⟨s₁, hcommits, rfl⟩ := commits_of_stepFrom_ok hcommit
  -- A step does not look at the stamp, so the store may be taken to be stamped.
  have hconsistent : Consistent registry version { s with version? := some (.readable version) } :=
    ⟨rfl, hs⟩
  have hstamped := hcommits.withHeader (some (.readable version)) s.journal?
  obtain ⟨live, next, d₁, d, count, fallbacks, rows₁, hlive, hnext, hholds, hholds', htransformed,
    hadd, hdraft⟩ := hstamped.exists_draft hbuild hnames hconsistent hstep
  obtain ⟨live', next', hlive', haccepts, hnext', -⟩ := exists_accepts hbuild hstep
  obtain rfl : live = live' := Option.some.inj (hlive.symm.trans hlive')
  obtain rfl : next = atVersion next' (version + 1) := Option.some.inj (hnext.symm.trans hnext')
  have hkeyed := Store.keyed_table_snapshot { s with version? := some (.readable version) } live
  obtain ⟨-, haccepted⟩ := Step.grows_transformed hkeyed hother htransformed
  have hcovers := Step.covers_of_plan haccepts htransformed hadd
  have hold := hholds.isPlacesOf (hnames _ _ hlive)
  have hnew := hcovers.isPlacesOf (hnames _ _ hlive) (hnames _ _ hnext) hdraft
  have hreport := hstamped.report_eq hbuild hstep hlive hnext htransformed hadd
  have haccounts := Step.accounts_of_plan haccepts hother htransformed hadd hreport hold hnew
  exact ⟨live, _, hlive, hnext, haccepted, (hholds.filed (hnames _ _ hlive)).card_places,
    (hholds'.filed (hnames _ _ hnext)).card_places, haccounts⟩

/-- People by name and tasks by number. -/
def staff : Schema :=
  .ofList 0 [⟨"Person", [.primary "name" .str]⟩, ⟨"Task", [.primary "id" .int]⟩]

theorem staff_nulFreeNames : staff.NulFreeNames := Schema.nulFreeNames_ofList (by decide)

/-- A store with two people and two tasks. -/
def staffed : Store :=
  ((((Store.ofSchema staff 0).putRecord "Person" (.keyed "name" (.str "Ann"))).putRecord "Person"
    (.keyed "name" (.str "Bob"))).putRecord "Task" (.keyed "id" (.int 1))).putRecord "Task"
      (.keyed "id" (.int 2))

/-- A step that clears the tasks, gives everyone the first task for want of another, and inserts a
third. -/
def planning : Step :=
  (((Step.ofSource 0 "planning").clearTable "Task").withTransform "Person" fun r _ =>
    .ok ((Transform.Output.ofRecord r).emit "Task" (.keyed "id" (.int 1))).fallback).insert "Task"
      (.keyed "id" (.int 3))

/-- Of two tasks one is deleted and one is added again, and a third is added. The task that is given
to the second person counts as a fallback, besides the one taken for each. -/
theorem accounts_of_step_planning :
    ∃ registry report journal s', build staff [planning] = .ok registry ∧
      Consistent registry 0 staffed ∧
      registry.stepFrom .standard 0 (.begin 0 1) staffed = (.ok (report, journal), s') ∧
      report.deleted = 1 ∧ report.added = 2 ∧ report.transformed = 2 ∧ report.written = 4 ∧
      report.fallbacks = 3 ∧
      ∃ next, planning.Accounts next (staffed.snapshot staff) staffed.places s'.places report := by
  have hother : ∀ name t, planning.transform? = some (name, t) → ∀ r cx output,
      t r cx = .ok output → ∀ p ∈ output.emitted, p.1 ≠ name := by
    rintro name t ht r cx output hr p hp
    cases ht
    cases hr
    cases List.mem_singleton.1 hp
    decide
  have hcreated : ∀ step ∈ [planning], ∀ e, Edit.createTable e ∈ step.edits → NulFree e.name := by
    intro step hmem e he
    cases List.mem_singleton.1 hmem
    cases he
  obtain ⟨registry, report, journal, s', hbuild, hstep, hs, hcommit, hlive, hcounts⟩ :
      ∃ registry report journal s', build staff [planning] = .ok registry ∧
        registry.stepFor? 0 = some planning ∧ Consistent registry 0 staffed ∧
        registry.stepFrom .standard 0 (.begin 0 1) staffed = (.ok (report, journal), s') ∧
        registry.schemaAt? 0 = some staff ∧
        report.deleted = 1 ∧ report.added = 2 ∧ report.transformed = 2 ∧ report.written = 4 ∧
          report.fallbacks = 3 :=
    ⟨_, _, _, _, rfl, rfl, ((((consistent_ofSchema rfl).putRecord rfl rfl rfl).putRecord rfl rfl
      rfl).putRecord rfl rfl rfl).putRecord rfl rfl rfl,
      stepFrom_of_plan_ok rfl rfl rfl rfl rfl _, rfl, rfl, rfl, rfl, rfl, rfl⟩
  obtain ⟨live, next, hlive', -, -, -, -, haccounts⟩ :=
    accounts_of_step hbuild staff_nulFreeNames hcreated hs.live hstep hother hcommit
  obtain rfl : staff = live := Option.some.inj (hlive.symm.trans hlive')
  obtain ⟨hdeleted, hadded, htransformed, hwritten, hfallbacks⟩ := hcounts
  exact ⟨registry, report, journal, s', hbuild, hs, hcommit, hdeleted, hadded, htransformed,
    hwritten, hfallbacks, next, haccounts⟩

/-- A step that clears the people of the second version. -/
def dismissal : Step := (Step.ofSource 1 "dismissal").clearTable "Person"

/-- People, and an entity whose name goes on behind theirs after a null character. -/
def shadowed : Schema := atVersion (people.withEntity ⟨"Person\x00\x02", []⟩) 1

/-- A store of the second version with a record of that entity and no people. -/
def noPeople : Store :=
  (Store.ofSchema shadowed 1).putRecord "Person\x00\x02" (.ofKey (.row 0))

/-- Names without null characters are needed of the created tables too: a record of such a table is
counted as a deleted person, though no person was there and the record stays. -/
theorem exists_deletion_of_stored :
    ∃ registry report journal s',
      build people [creation "Person\x00\x02", dismissal] = .ok registry ∧
      people.WellFormed ∧ people.NulFreeNames ∧ Consistent registry 1 noPeople ∧
      registry.stepFor? 1 = some dismissal ∧ dismissal.transform? = none ∧
      registry.stepFrom .standard 1 (.begin 1 2) noPeople = (.ok (report, journal), s') ∧
      s'.records = noPeople.records ∧ report.deleted = 1 ∧
      report.deleted ≠ (noPeople.places \ s'.places).card := by
  obtain ⟨registry, report, journal, s', hbuild, hstep, hs, hcommit, hrecords, hdeleted⟩ :
      ∃ registry report journal s',
        build people [creation "Person\x00\x02", dismissal] = .ok registry ∧
        registry.stepFor? 1 = some dismissal ∧ Consistent registry 1 noPeople ∧
        registry.stepFrom .standard 1 (.begin 1 2) noPeople = (.ok (report, journal), s') ∧
        s'.records = noPeople.records ∧ report.deleted = 1 :=
    ⟨_, _, _, _, rfl, rfl, (consistent_ofSchema rfl).putRecord rfl rfl rfl,
      stepFrom_of_plan_ok rfl rfl rfl rfl rfl _, by decide +kernel, rfl⟩
  have hplaces : s'.places = noPeople.places := by
    unfold Store.places
    rw [hrecords]
  refine ⟨registry, report, journal, s', hbuild, people_wellFormed, people_nulFreeNames, hs, hstep,
    rfl, hcommit, hrecords, hdeleted, ?_⟩
  rw [hplaces, Finset.sdiff_self, Finset.card_empty, hdeleted]
  exact Nat.one_ne_zero

end Registry

end Strata
