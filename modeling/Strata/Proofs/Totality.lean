import Strata.Proofs.Consistency

/-!
# Steps that cannot fail

A step whose transform accepts every record that fits and emits into cleared tables only, which
inserts at most one record into a new table without a primary key, and whose revision never gives up
(`Step.Total`) has a plan over every store whose snapshot fits the schema (`Step.exists_plan`). The
draft keeps two things all along (`Draft.Fitting`): every record fits the next schema, and a cleared
table holds emitted records only, so that an emitted record is either dropped or finds its key free.

A snapshot fits when nothing is wrong with what the scans of a store give (`Store.ReadsFit`), which
is so in a store of records of the schema whose entity names are apart (`Store.Holds.readsFit`).
-/

namespace Strata

/-! ## Records that are read -/

/-- Every record that a snapshot has for an entity of a schema fits that entity. -/
def Snapshot.Fits (snapshot : Snapshot) (schema : Schema) : Prop :=
  ∀ name e (key : Key) (r : Record), schema.entity? name = some e →
    (snapshot.table name)[key]? = some r → e.Fits r

/-- No name of an entity, with the separator behind it, opens the storage keys of another entity. -/
def Schema.NamesApart (schema : Schema) : Prop :=
  ∀ name other, schema.hasEntity name = true → schema.hasEntity other = true →
    (StorageKey.opening name).isPrefixOf (StorageKey.opening other) = true → name = other

/-- Names without the null character are apart. -/
theorem Schema.NulFreeNames.namesApart {schema : Schema} (h : schema.NulFreeNames) :
    schema.NamesApart := by
  intro name other hname hother hopens
  -- What opens the other name opens every storage key behind it.
  have hencoded :
      (StorageKey.opening name).isPrefixOf (StorageKey.encode other (.row 0)) = true := by
    rw [List.isPrefixOf_iff_prefix] at hopens ⊢
    exact hopens.trans (List.prefix_append _ _)
  exact (StorageKey.opening_isPrefixOf_encode (h name hname) (h other hother)).1 hencoded

namespace Store

variable {s : Store} {schema : Schema}

/-- Nothing is wrong with any record that a scan of an entity of a schema gives. -/
def ReadsFit (s : Store) (schema : Schema) : Prop :=
  ∀ name e, schema.entity? name = some e → ∀ r ∈ s.scan name, e.issues r = []

/-- A scan of an entity gives records of that entity only, if names are apart. -/
theorem Holds.readsFit (h : s.Holds schema) (hnames : schema.NamesApart) : s.ReadsFit schema := by
  intro name e he r hr
  unfold scan entries at hr
  obtain ⟨⟨bytes, r⟩, hentry, rfl⟩ := List.mem_map.1 hr
  obtain ⟨hmem, hopens⟩ := List.mem_filter.1 hentry
  rw [Std.ExtTreeMap.mem_toList_iff_getElem?_eq_some] at hmem
  obtain ⟨other, e', he', rfl, hissues⟩ := h bytes r hmem
  have hname := Schema.hasEntity_of_entity? he
  have hother := Schema.hasEntity_of_entity? he'
  -- Both names open one storage key, so that one of them opens the other.
  have hsame : name = other := by
    have hopening : StorageKey.opening other <+: StorageKey.encode other r.key :=
      List.prefix_append _ _
    rcases List.prefix_or_prefix_of_prefix (List.isPrefixOf_iff_prefix.1 hopens) hopening with
      hprefix | hprefix
    · exact hnames name other hname hother (List.isPrefixOf_iff_prefix.2 hprefix)
    · exact (hnames other name hother hname (List.isPrefixOf_iff_prefix.2 hprefix)).symm
  subst hsame
  rw [he] at he'
  cases he'
  exact hissues

/-- When nothing is wrong with the records that are read, a snapshot of them fits. -/
theorem ReadsFit.snapshot_fits (h : s.ReadsFit schema) : (s.snapshot schema).Fits schema := by
  intro name e key r he hr
  rw [table_snapshot] at hr
  split at hr
  · exact Entity.fits_iff.2 (h name e he r (Table.mem_of_getElem?_ofRecords hr))
  · simp at hr

end Store

namespace Draft

/-- Every record of a draft fits its entity, and the tables that were emptied hold only records
whose keys were emitted. -/
structure Fitting (next : Schema) (emptied : List String) (d : Draft) : Prop where
  /-- Records fit. -/
  fits : ∀ name e (key : Key) (r : Record), next.entity? name = some e →
    (d.table name)[key]? = some r → e.Fits r
  /-- Keys of emptied tables were emitted. -/
  emitted : ∀ name ∈ emptied, ∀ key, (d.table name).contains key = true →
    (name, key) ∈ d.emitted

variable {next : Schema} {emptied : List String} {d d' : Draft} {rows : RowCounter} {name : String}
  {e : Entity} {r : Record}

/-- Putting a record that fits leaves all records fitting. -/
theorem Fitting.fits_put (h : Fitting next emptied d) (he : next.entity? name = some e)
    (hr : e.Fits r) {other : String} {e' : Entity} {key : Key} {r' : Record}
    (he' : next.entity? other = some e') (hr' : ((d.put name r).table other)[key]? = some r') :
    e'.Fits r' := by
  rw [getElem?_table_put] at hr'
  split at hr'
  · next heq =>
    obtain ⟨rfl, -⟩ := heq
    cases hr'
    rw [he] at he'
    cases he'
    exact hr
  · exact h.fits other e' key r' he' hr'

/-- A record that fits may be put into a table that was not emptied. -/
theorem Fitting.put (h : Fitting next emptied d) (hkept : name ∉ emptied)
    (he : next.entity? name = some e) (hr : e.Fits r) : Fitting next emptied (d.put name r) := by
  refine ⟨fun _ _ _ _ he' hr' => h.fits_put he hr he' hr', fun other hother key hkey => ?_⟩
  rw [contains_eq_isSome, getElem?_table_put, if_neg, ← contains_eq_isSome] at hkey
  · exact h.emitted other hother key hkey
  · rintro ⟨rfl, -⟩
    exact hkept hother

/-- A table that was not emptied before may be emptied for its records to be put back. -/
theorem Fitting.withTable_empty (h : Fitting next emptied d) (hkept : name ∉ emptied) :
    Fitting next emptied (d.withTable name ∅) := by
  refine ⟨fun other e' key r' he' hr' => ?_, fun other hother key hkey => ?_⟩
  · rw [table_withTable] at hr'
    split at hr'
    · simp at hr'
    · exact h.fits other e' key r' he' hr'
  · have hne : name ≠ other := by
      rintro rfl
      exact hkept hother
    rw [table_withTable, if_neg hne] at hkey
    exact h.emitted other hother key hkey

/-- A record of a keyed entity that fits once its defaults are filled may be emitted into a table
that was emptied. -/
theorem Fitting.emit (h : Fitting next emptied d) (hemptied : name ∈ emptied)
    (he : next.entity? name = some e) (hkeyed : e.isKeyed = true)
    (hr : e.Fits (e.fillDefaults r)) (rows : RowCounter) :
    ∃ d' kept, (d.emit next name r).run.run rows = (.ok (d', kept), rows) ∧
      Fitting next emptied d' := by
  have hkeyedIn : keyedIn next name = true := by
    unfold keyedIn
    rw [he]
    exact hkeyed
  unfold Draft.emit
  rw [hkeyedIn, if_pos rfl]
  by_cases hmem : d.emitted.contains (name, r.key) = true
  · rw [if_pos hmem]
    exact ⟨d, false, rfl, h⟩
  · rw [if_neg hmem]
    -- The keys of an emptied table were all emitted, and this one was not.
    have hfree : (d.table name).contains (e.fillDefaults r).key = false := by
      rw [Entity.key_fillDefaults, Bool.eq_false_iff]
      exact fun hkey => hmem (List.contains_iff_mem.2 (h.emitted name hemptied r.key hkey))
    have hadd : (d.add next name r).run.run rows =
        (.ok { d.put name (e.fillDefaults r) with added := d.added + 1 }, rows) :=
      add_ok_iff.2 ⟨e, _, he, .keyed hkeyed, addKeyed_eq_ok_iff.2 ⟨hfree, rfl⟩⟩
    refine ⟨_, true, Drawing.bind_ok_iff.2 ⟨_, rows, hadd, rfl⟩, ?_, ?_⟩
    · exact fun _ _ _ _ he' hr' => h.fits_put he hr he' hr'
    · intro other hother key hkey
      change ((d.put name (e.fillDefaults r)).table other).contains key = true at hkey
      change (other, key) ∈ (name, r.key) :: d.emitted
      rw [contains_eq_isSome, getElem?_table_put, Entity.key_fillDefaults] at hkey
      by_cases heq : name = other ∧ r.key = key
      · obtain ⟨rfl, rfl⟩ := heq
        exact List.mem_cons_self
      · rw [if_neg heq, ← contains_eq_isSome] at hkey
        exact List.mem_cons_of_mem _ (h.emitted other hother key hkey)

/-- Whether a record may be emitted by a step that empties some tables. -/
def Emittable (next : Schema) (emptied : List String) (p : String × Record) : Prop :=
  p.1 ∈ emptied ∧ ∃ e, next.entity? p.1 = some e ∧ e.isKeyed = true ∧ e.Fits (e.fillDefaults p.2)

/-- Records may be emitted one after the other. -/
theorem Fitting.emitAll (h : Fitting next emptied d) {emitted : List (String × Record)}
    (hall : ∀ p ∈ emitted, Emittable next emptied p) (rows : RowCounter) :
    ∃ d' dropped, (emitAll next d emitted).run.run rows = (.ok (d', dropped), rows) ∧
      Fitting next emptied d' := by
  -- Keyed records draw no row number, so the counter stays.
  let motive (rest : List (String × Record)) (state : Draft × Nat) (rows' : RowCounter) : Prop :=
    (∀ p ∈ rest, Emittable next emptied p) ∧ Fitting next emptied state.1 ∧ rows' = rows
  have hinit : motive emitted (d, 0) rows := ⟨hall, h, rfl⟩
  have hrun : ∃ state rows', (Draft.emitAll next d emitted).run.run rows = (.ok state, rows') ∧
      motive [] state rows' := by
    refine Drawing.foldlM_total motive ?_ hinit
    rintro ⟨name, r⟩ rest ⟨d₁, n⟩ rows₁ ⟨hrest, hfit, rfl⟩
    obtain ⟨hemptied, e, he, hkeyed, hr⟩ := hrest (name, r) List.mem_cons_self
    obtain ⟨d₂, kept, hemit, hfit₂⟩ := hfit.emit hemptied he hkeyed hr rows₁
    exact ⟨_, rows₁, Drawing.bind_ok_iff.2 ⟨(d₂, kept), rows₁, hemit, rfl⟩,
      fun p hp => hrest p (List.mem_cons_of_mem _ hp), hfit₂, rfl⟩
  obtain ⟨⟨d', dropped⟩, rows', hrun, -, hfit, rfl⟩ := hrun
  exact ⟨d', dropped, hrun, hfit⟩

/-- A draft of records that fit, which touches only tables of the schema, is valid. -/
theorem Fitting.validate (h : Fitting next emptied d)
    (hknown : ∀ name, d.Touched name → next.hasEntity name = true) (transformed : Option String) :
    d.validate next transformed = .ok () := by
  unfold Draft.validate
  rw [forM_eq_ok_iff]
  rintro ⟨name, t⟩ hmem
  rw [Std.ExtTreeMap.mem_toList_iff_getElem?_eq_some] at hmem
  have htouched : d.Touched name := by
    unfold Touched
    rw [contains_eq_isSome, hmem]
    rfl
  have htable : d.table name = t := by
    unfold table
    rw [hmem]
    rfl
  -- The entity of a touched table is known, so its records are checked, and all of them fit.
  obtain ⟨e, he⟩ := Schema.exists_entity? (hknown name htouched)
  unfold checkTable
  dsimp only
  rw [he]
  dsimp only
  rw [forM_eq_ok_iff]
  intro r hr
  obtain ⟨key, hkey⟩ := mem_values_iff.1 hr
  have hissues := Entity.fits_iff.1 (h.fits name e key r he (htable ▸ hkey))
  unfold checkRecord
  rw [hissues]

end Draft

/-- A transform that accepts every record that fits its entity and leaves it fitting under its key,
and emits only what a step that empties some tables may emit. -/
def Transform.Total (t : Transform) (next : Schema) (emptied : List String) (e : Entity) : Prop :=
  ∀ r cx, e.Fits r → ∃ output, t r cx = .ok output ∧ output.record.key = r.key ∧
    e.Fits output.record ∧ ∀ p ∈ output.emitted, Draft.Emittable next emptied p

/-- How many row numbers are left. -/
def RowCounter.left (c : RowCounter) : Nat := UInt64.size - c.next

namespace Step

/-- A step between two schemas of which no part can fail. -/
structure Total (step : Step) (live next : Schema) : Prop where
  /-- The transform is total, and its table is not emptied. -/
  transform : ∀ name t, step.transform? = some (name, t) → name ∉ step.clears ∧
    ∃ e, next.entity? name = some e ∧ t.Total next step.clears e
  /-- Nothing is inserted, or one record into a new table without a primary key. -/
  inserts : step.inserts = [] ∨ step.transform? = none ∧
    ∃ name r e, step.inserts = [(name, r)] ∧ live.hasEntity name = false ∧
      next.entity? name = some e ∧ e.isKeyed = false ∧
      ∀ n, e.Fits (e.fillDefaults (r.withKey (.row n)))
  /-- The revision never gives up. -/
  revision : ∀ revision, step.revision? = some revision → ∀ snapshot edits,
    ∃ edits', revision snapshot edits = .ok edits'

variable {step : Step} {live next : Schema} {d : Draft} {rows : RowCounter} {version : Nat}

/-- A step without a transform and inserts cannot fail if its revision cannot. -/
theorem total_of_plain (htransform : step.transform? = none) (hinserts : step.inserts = [])
    (hrevision : ∀ revision, step.revision? = some revision → ∀ snapshot edits,
      ∃ edits', revision snapshot edits = .ok edits') : step.Total live next := by
  refine ⟨fun name t ht => ?_, .inl hinserts, hrevision⟩
  rw [htransform] at ht
  cases ht

/-- A step without inserts cannot fail if its transform and its revision cannot. -/
theorem total_of_transform {name : String} {t : Transform} {e : Entity}
    (htransform : step.transform? = some (name, t)) (hkept : name ∉ step.clears)
    (he : next.entity? name = some e) (ht : t.Total next step.clears e)
    (hinserts : step.inserts = [])
    (hrevision : ∀ revision, step.revision? = some revision → ∀ snapshot edits,
      ∃ edits', revision snapshot edits = .ok edits') : step.Total live next := by
  refine ⟨fun name' t' ht' => ?_, .inl hinserts, hrevision⟩
  rw [htransform] at ht'
  cases ht'
  exact ⟨hkept, e, he, ht⟩

/-- The clears and the edits of a step leave records of the live schema fitting. -/
theorem fitting_edited (haccepts : Registry.Accepts live step next) {s : Store}
    (hs : (s.snapshot live).Fits live) (hdistinct : live.DistinctFields) :
    (step.edited (s.snapshot live)).Fitting (Registry.atVersion next version) step.clears := by
  refine ⟨fun name e key r he hr => ?_, fun name hname key hkey => ?_⟩
  · rw [getElem?_table_edited] at hr
    obtain ⟨r₀, hr₀, rfl⟩ := Option.map_eq_some_iff.1 hr
    split at hr₀
    · simp at hr₀
    next hkept =>
    cases hhas : live.hasEntity name with
    | false =>
      rw [s.table_snapshot_of_absent hhas] at hr₀
      simp at hr₀
    | true =>
      obtain ⟨old, hold⟩ := Schema.exists_entity? hhas
      obtain ⟨e', he', hfits⟩ :=
        Edit.applyAll_fits haccepts.edits hdistinct hkept hold (hs name old key r₀ hold hr₀)
      have hsame : (Registry.atVersion next version).entity? name = some e' := he'
      rw [he] at hsame
      cases hsame
      exact hfits
  · rw [contains_eq_isSome, getElem?_table_edited, if_pos hname] at hkey
    simp at hkey

/-- Outputs of a total transform may be settled one after the other. -/
theorem exists_settle {emptied : List String} {name : String} {e : Entity}
    (h : d.Fitting next emptied) (hkept : name ∉ emptied) (he : next.entity? name = some e)
    {outputs : List (Key × Transform.Output)}
    (hall : ∀ p ∈ outputs, p.2.record.key = p.1 ∧ e.Fits p.2.record ∧
      ∀ q ∈ p.2.emitted, Draft.Emittable next emptied q) (rows : RowCounter) :
    ∃ d' dropped, (settle next name d outputs).run.run rows = (.ok (d', dropped), rows) ∧
      d'.Fitting next emptied := by
  let motive (rest : List (Key × Transform.Output)) (state : Draft × Nat) (rows' : RowCounter) :
      Prop :=
    (∀ p ∈ rest, p.2.record.key = p.1 ∧ e.Fits p.2.record ∧
      ∀ q ∈ p.2.emitted, Draft.Emittable next emptied q) ∧
      state.1.Fitting next emptied ∧ rows' = rows
  have hinit : motive outputs (d, 0) rows := ⟨hall, h, rfl⟩
  have hrun : ∃ state rows', (settle next name d outputs).run.run rows = (.ok state, rows') ∧
      motive [] state rows' := by
    refine Drawing.foldlM_total motive ?_ hinit
    rintro ⟨key, output⟩ rest ⟨d₁, n⟩ rows₁ ⟨hrest, hfit, rfl⟩
    obtain ⟨hkey, hrecord, hemitted⟩ := hrest (key, output) List.mem_cons_self
    obtain ⟨d₂, more, hemit, hfit₂⟩ := (hfit.put hkept he hrecord).emitAll hemitted rows₁
    refine ⟨(d₂, n + more), rows₁, ?_, fun p hp => hrest p (List.mem_cons_of_mem _ hp), hfit₂, rfl⟩
    dsimp only at hkey ⊢
    rw [if_neg (Decidable.not_not.2 hkey)]
    exact Drawing.bind_ok_iff.2 ⟨(d₂, more), rows₁, hemit, rfl⟩
  obtain ⟨⟨d', dropped⟩, rows', hrun, -, hfit, rfl⟩ := hrun
  exact ⟨d', dropped, hrun, hfit⟩

/-- A total transform accepts records that fit, one after the other. -/
theorem exists_applyAll {t : Transform} {e : Entity} (ht : t.Total next step.clears e)
    {records : List Record} (hfits : ∀ r ∈ records, e.Fits r) (cx : Transform.Context) :
    ∃ outputs, t.applyAll cx records = .ok outputs ∧
      ∀ p ∈ (records.map (·.key)).zip outputs, p.2.record.key = p.1 ∧ e.Fits p.2.record ∧
        ∀ q ∈ p.2.emitted, Draft.Emittable next step.clears q := by
  cases houtputs : t.applyAll cx records with
  | error error =>
    obtain ⟨r, hr, herror⟩ := Transform.exists_of_applyAll_eq_error houtputs
    obtain ⟨output, hok, -⟩ := ht r cx (hfits r hr)
    rw [herror] at hok
    cases hok
  | ok outputs =>
    refine ⟨outputs, rfl, fun p hp => ?_⟩
    have hall := Transform.applyAll_eq_ok_iff.1 houtputs
    rw [List.zip_map_left] at hp
    obtain ⟨⟨r, output⟩, hmem, rfl⟩ := List.mem_map.1 hp
    obtain ⟨output', hok, hkey, hrecord, hemitted⟩ := ht r cx (hfits r (List.of_mem_zip hmem).1)
    have hsame : t r cx = .ok output := List.forall₂_zip hall hmem
    rw [hok] at hsame
    cases hsame
    exact ⟨hkey, hrecord, hemitted⟩

/-- A step of which no part can fail transforms a draft of records that fit, and draws no row
number. -/
theorem exists_transformed (h : step.Total live next) (config : PassConfig)
    (hd : d.Fitting next step.clears) (rows : RowCounter) :
    ∃ d' count fallbacks,
      (step.transformed next config d).run.run rows = (.ok (d', count, fallbacks), rows) ∧
      d'.Fitting next step.clears ∧ (step.transform? = none → d' = d) := by
  unfold transformed
  cases htransform : step.transform? with
  | none => exact ⟨d, 0, 0, rfl, hd, fun _ => rfl⟩
  | some p =>
    obtain ⟨name, t⟩ := p
    obtain ⟨hkept, e, he, ht⟩ := h.transform name t htransform
    have hfits : ∀ r ∈ (d.table name).values, e.Fits r := by
      intro r hr
      obtain ⟨key, hkey⟩ := mem_values_iff.1 hr
      exact hd.fits name e key r he hkey
    obtain ⟨outputs, houtputs, hpairs⟩ := exists_applyAll ht hfits ⟨d.snapshot, name⟩
    obtain ⟨d', dropped, hsettle, hfit⟩ :=
      exists_settle (hd.withTable_empty hkept) hkept he hpairs rows
    dsimp only
    rw [Transform.runPass_eq_applyAll, houtputs]
    refine ⟨d', _, _, Drawing.bind_ok_iff.2 ⟨(d', dropped), rows, hsettle, rfl⟩, hfit,
      fun hnone => ?_⟩
    cases hnone

/-- The inserts of a step of which no part can fail are added to the draft, and draw one row number
each. -/
theorem exists_addAll (h : step.Total live next)
    (hclears : ∀ name ∈ step.clears, live.hasEntity name = true) (hd : d.Fitting next step.clears)
    (hnew : step.transform? = none → ∀ name, live.hasEntity name = false → d.table name = ∅)
    (hrows : step.inserts.length ≤ rows.left) :
    ∃ d' rows', (d.addAll next step.inserts).run.run rows = (.ok d', rows') ∧
      d'.Fitting next step.clears ∧ rows'.left = rows.left - step.inserts.length := by
  rcases h.inserts with hnone | ⟨htransform, name, r, e, hinserts, habsent, he, hkeyed, hfits⟩
  · rw [hnone]
    exact ⟨d, rows, rfl, hd, rfl⟩
  · rw [hinserts] at hrows ⊢
    obtain ⟨n, rows', hdraw, hnext⟩ : ∃ n rows', rows.draw? = some (n, rows') ∧
        rows'.left = rows.left - 1 := by
      have hlt : rows.next < UInt64.size := Nat.lt_of_sub_pos hrows
      unfold RowCounter.draw?
      rw [if_pos hlt]
      exact ⟨_, _, rfl, rfl⟩
    have htable := hnew htransform name habsent
    have hfree : (d.table name).contains (e.fillDefaults (r.withKey (.row n))).key = false := by
      rw [htable]
      exact Std.ExtTreeMap.contains_empty
    have hkept : name ∉ step.clears := by
      intro hmem
      rw [hclears name hmem] at habsent
      cases habsent
    have hadd : (d.add next name r).run.run rows = (.ok _, rows') :=
      Draft.add_ok_iff.2 ⟨e, _, he, .row hkeyed hdraw, Draft.addKeyed_eq_ok_iff.2 ⟨hfree, rfl⟩⟩
    have hput := hd.put hkept he (hfits n)
    exact ⟨_, rows', Drawing.bind_ok_iff.2 ⟨_, rows', hadd, rfl⟩, ⟨hput.fits, hput.emitted⟩, hnext⟩

/-- A step of which no part can fail has a plan over every store whose snapshot fits the schema,
which draws one row number for each insert. -/
theorem exists_plan {next₀ : Schema} (haccepts : Registry.Accepts live step next₀)
    (h : step.Total live (Registry.atVersion next₀ version)) {s : Store}
    (hs : (s.snapshot live).Fits live) (hdistinct : live.DistinctFields) (config : PassConfig)
    (hrows : step.inserts.length ≤ s.rows.left) :
    ∃ plan rows, (step.plan live (Registry.atVersion next₀ version) config s).run.run s.rows =
      (.ok plan, rows) ∧ rows.left = s.rows.left - step.inserts.length := by
  have hedited : (step.edited (s.snapshot live)).Fitting (Registry.atVersion next₀ version)
      step.clears := fitting_edited haccepts hs hdistinct
  obtain ⟨d₁, count, fallbacks, htransformed, hd₁, hsame⟩ :=
    exists_transformed h config hedited s.rows
  -- The table of an entity that the step creates is empty until something is inserted.
  have hnew : step.transform? = none → ∀ name, live.hasEntity name = false →
      d₁.table name = ∅ := by
    intro htransform name habsent
    rw [hsame htransform]
    refine Std.ExtTreeMap.ext_getElem? fun key => ?_
    rw [getElem?_table_edited, s.table_snapshot_of_absent habsent]
    simp
  obtain ⟨d, rows, hadd, hd, hnext⟩ := exists_addAll h haccepts.clears hd₁ hnew hrows
  have hcovers := covers_of_plan haccepts htransformed hadd
  have hvalid := hd.validate hcovers.known (step.transform?.map (·.1))
  obtain ⟨edits, hedits⟩ :
      ∃ edits, step.preferenceEdits (s.snapshot live) s.preferences = .ok edits := by
    unfold preferenceEdits
    cases hrevision : step.revision? with
    | none => exact ⟨∅, rfl⟩
    | some revision =>
      obtain ⟨edits, hok⟩ :=
        h.revision revision hrevision (s.snapshot live) (.ofCurrent s.preferences)
      dsimp only
      rw [hok]
      exact ⟨edits.pending, rfl⟩
  have hplan : ∃ plan, (step.plan live (Registry.atVersion next₀ version) config s).run.run s.rows =
      (.ok plan, rows) := by
    unfold Step.plan
    dsimp only
    rw [Drawing.run_bind, htransformed]
    dsimp only
    rw [Drawing.run_bind, hadd]
    dsimp only
    rw [hvalid, hedits]
    exact ⟨_, rfl⟩
  obtain ⟨plan, hplan⟩ := hplan
  exact ⟨plan, rows, hplan, hnext⟩

end Step

end Strata
