import Strata.Proofs.Edits
import Strata.Proofs.Tables

/-!
# What can happen to a draft

Once its tables are cleared, a draft only grows: `Draft.Extends` says that a later draft has the
same snapshot, clears the same tables, touches at least the tables that were touched and others of
the next schema only, loses no key, and keeps every record under its own key. Each function on
drafts comes with the lemma that it extends the draft, and with an inversion of its success where
it can fail.
-/

namespace Strata

namespace Draft

variable {d d' d'' : Draft} {next : Schema} {rows rows' : RowCounter}

/-- A draft touches a table if it has new contents for it. -/
def Touched (d : Draft) (name : String) : Prop := d.tables.contains name = true

/-- A table that is not touched is that of the snapshot. -/
theorem table_of_not_touched {name : String} (h : ¬d.Touched name) :
    d.table name = d.snapshot.table name := by
  unfold Touched at h
  rw [contains_eq_isSome, Bool.not_eq_true, Option.isSome_eq_false_iff,
    Option.isNone_iff_eq_none] at h
  unfold table
  rw [h]
  rfl

/-- A touched table is found among the touched tables. -/
theorem getElem?_tables {name : String} (h : d.Touched name) :
    d.tables[name]? = some (d.table name) := by
  unfold Touched at h
  rw [contains_eq_isSome] at h
  obtain ⟨t, ht⟩ := Option.isSome_iff_exists.1 h
  unfold table
  rw [ht]
  rfl

/-- Replacing a table changes that table and no other. -/
theorem table_withTable (d : Draft) (name other : String) (t : Table) :
    (d.withTable name t).table other = if name = other then t else d.table other := by
  unfold table withTable
  rw [getElem?_insert_eq_ite]
  split <;> rfl

/-- Replacing a table touches that table and no other. -/
theorem touched_withTable {name other : String} {t : Table} :
    (d.withTable name t).Touched other ↔ name = other ∨ d.Touched other := by
  unfold Touched withTable
  rw [contains_eq_isSome, contains_eq_isSome, getElem?_insert_eq_ite]
  by_cases h : name = other <;> simp [h]

/-- What a draft may become once its tables are cleared. -/
structure Extends (next : Schema) (d d' : Draft) : Prop where
  /-- The records before the step stay the same. -/
  snapshot : d'.snapshot = d.snapshot
  /-- No other table is cleared. -/
  cleared : d'.cleared = d.cleared
  /-- Touched tables stay touched. -/
  touched : ∀ name, d.Touched name → d'.Touched name
  /-- Only tables of the next schema are touched. -/
  known : ∀ name, d'.Touched name → d.Touched name ∨ next.hasEntity name = true
  /-- No key is lost. -/
  keys : ∀ name key, (d.table name).contains key = true → (d'.table name).contains key = true
  /-- Records stay under their own keys. -/
  keyed : (∀ name, (d.table name).Keyed) → ∀ name, (d'.table name).Keyed

theorem Extends.refl (next : Schema) (d : Draft) : Extends next d d :=
  ⟨rfl, rfl, fun _ h => h, fun _ h => .inl h, fun _ _ h => h, fun h => h⟩

theorem Extends.trans (h : Extends next d d') (h' : Extends next d' d'') :
    Extends next d d'' := by
  refine ⟨h'.snapshot.trans h.snapshot, h'.cleared.trans h.cleared, fun name ht => ?_,
    fun name ht => ?_, fun name key hk => ?_, fun hk => ?_⟩
  · exact h'.touched name (h.touched name ht)
  · rcases h'.known name ht with ht | hhas
    · exact h.known name ht
    · exact .inr hhas
  · exact h'.keys name key (h.keys name key hk)
  · exact h'.keyed (h.keyed hk)

/-- A table of the next schema may be replaced by one that has its keys and is keyed. -/
theorem extends_withTable {name : String} {t : Table} (hhas : next.hasEntity name = true)
    (hkeys : ∀ key, (d.table name).contains key = true → t.contains key = true)
    (hkeyed : (d.table name).Keyed → t.Keyed) : Extends next d (d.withTable name t) := by
  refine ⟨rfl, rfl, fun other h => touched_withTable.2 (.inr h), fun other h => ?_,
    fun other key h => ?_, fun h other => ?_⟩
  · rcases touched_withTable.1 h with rfl | h
    · exact .inr hhas
    · exact .inl h
  · rw [table_withTable]
    split
    · next heq =>
      subst heq
      exact hkeys key h
    · exact h
  · rw [table_withTable]
    split
    · exact hkeyed (h name)
    · exact h other

/-! ## Putting and adding single records -/

/-- What a table holds once a record is put into it. -/
theorem getElem?_table_put (d : Draft) (name other : String) (r : Record) (key : Key) :
    ((d.put name r).table other)[key]? =
      if name = other ∧ r.key = key then some r else (d.table other)[key]? := by
  unfold put
  rw [table_withTable]
  by_cases hname : name = other
  · subst hname
    rw [if_pos rfl, Table.getElem?_insert]
    by_cases hkey : r.key = key
    · rw [if_pos hkey, if_pos ⟨rfl, hkey⟩]
    · rw [if_neg hkey, if_neg fun h => hkey h.2]
  · rw [if_neg hname, if_neg fun h => hname h.1]

/-- Putting a record extends a draft. -/
theorem extends_put {name : String} (hhas : next.hasEntity name = true) (r : Record) :
    Extends next d (d.put name r) := by
  refine extends_withTable hhas (fun key h => ?_) fun h => h.insert r
  rw [Std.ExtTreeMap.contains_insert, h, Bool.or_true]

/-- A record is added exactly when its key is free. -/
theorem addKeyed_eq_ok_iff {name : String} {r : Record} :
    d.addKeyed name r = .ok d' ↔
      (d.table name).contains r.key = false ∧ d' = { d.put name r with added := d.added + 1 } := by
  unfold addKeyed
  cases (d.table name).contains r.key with
  | true => simp
  | false =>
    rw [if_neg Bool.false_ne_true, Except.ok.injEq]
    exact ⟨fun h => ⟨rfl, h.symm⟩, fun h => h.2.symm⟩

end Draft

namespace Drawing

variable {rows rows' : RowCounter} {n : UInt64}

/-- The number that the counter has next is drawn. -/
theorem row_of_draw?_some (h : rows.draw? = some (n, rows')) :
    row.run.run rows = (.ok n, rows') := by
  refine bind_ok_iff.2 ⟨rows, rows, rfl, ?_⟩
  rw [h]
  rfl

/-- No number is drawn from a counter that is used up. -/
theorem row_of_draw?_none (h : rows.draw? = none) :
    row.run.run rows = (.error (.storage .rowsExhausted), rows) := by
  refine bind_error_iff.2 (.inr ⟨rows, rows, rfl, ?_⟩)
  rw [h]
  rfl

/-- A row number is drawn exactly when the counter has one left. -/
theorem row_ok_iff : row.run.run rows = (.ok n, rows') ↔ rows.draw? = some (n, rows') := by
  constructor
  · intro h
    cases hdraw : rows.draw? with
    | none =>
      rw [row_of_draw?_none hdraw] at h
      cases h
    | some p =>
      rw [row_of_draw?_some hdraw] at h
      cases h
      rfl
  · exact row_of_draw?_some

end Drawing

/-- How a new record of an entity is completed: without a primary key it is given the next row
number, and then its defaults are filled. -/
inductive Entity.Completes (e : Entity) (r : Record) (rows : RowCounter) :
    Record → RowCounter → Prop
  /-- The entity is keyed by a field. -/
  | keyed (hkeyed : e.isKeyed = true) : Completes e r rows (e.fillDefaults r) rows
  /-- The entity is keyed by row. -/
  | row {n : UInt64} {rows' : RowCounter} (hkeyed : e.isKeyed = false)
      (hdraw : rows.draw? = some (n, rows')) :
      Completes e r rows (e.fillDefaults (r.withKey (.row n))) rows'

namespace Draft

variable {d d' : Draft} {next : Schema} {rows rows' : RowCounter} {name : String} {r : Record}

/-- Lifting a result that draws no row. -/
theorem run_liftExcept (x : Except MigrationError Draft) (rows : RowCounter) :
    (add.liftExcept x).run.run rows = (x, rows) := by
  cases x <;> rfl

/-- A record is added exactly when its entity exists and the completed record's key is free. -/
theorem add_ok_iff : (d.add next name r).run.run rows = (.ok d', rows') ↔
    ∃ e r', next.entity? name = some e ∧ e.Completes r rows r' rows' ∧
      d.addKeyed name r' = .ok d' := by
  unfold add
  cases next.entity? name with
  | none =>
    constructor
    · intro h
      cases h
    · rintro ⟨_, _, h, _⟩
      cases h
  | some e =>
    dsimp only
    -- Only a record without a primary key draws a number.
    cases hkeyed : e.isKeyed with
    | true =>
      rw [if_pos rfl]
      constructor
      · intro h
        obtain ⟨hadd, rfl⟩ := Prod.mk.inj (run_liftExcept _ rows ▸ h)
        exact ⟨e, _, rfl, .keyed hkeyed, hadd⟩
      · rintro ⟨_, r', ⟨⟩, hcompletes, hadd⟩
        cases hcompletes with
        | keyed => exact (run_liftExcept _ rows).trans (by rw [hadd])
        | row hrow =>
          rw [hkeyed] at hrow
          cases hrow
    | false =>
      rw [if_neg Bool.false_ne_true, Drawing.bind_ok_iff]
      constructor
      · rintro ⟨n, rows₁, hrow, h⟩
        obtain ⟨hadd, rfl⟩ := Prod.mk.inj (run_liftExcept _ rows₁ ▸ h)
        exact ⟨e, _, rfl, .row hkeyed (Drawing.row_ok_iff.1 hrow), hadd⟩
      · rintro ⟨_, r', ⟨⟩, hcompletes, hadd⟩
        cases hcompletes with
        | keyed hrow =>
          rw [hkeyed] at hrow
          cases hrow
        | @row n _ _ hdraw =>
          exact ⟨n, rows', Drawing.row_ok_iff.2 hdraw,
            (run_liftExcept _ rows').trans (by rw [hadd])⟩

/-- Adding a record extends a draft. -/
theorem extends_add (h : (d.add next name r).run.run rows = (.ok d', rows')) :
    Extends next d d' := by
  obtain ⟨e, r', he, -, hadd⟩ := add_ok_iff.1 h
  obtain ⟨-, rfl⟩ := addKeyed_eq_ok_iff.1 hadd
  have hput : Extends next d (d.put name r') := extends_put (Schema.hasEntity_of_entity? he) r'
  exact ⟨hput.snapshot, hput.cleared, hput.touched, hput.known, hput.keys, hput.keyed⟩

/-! ## Emitted and inserted records -/

/-- An emitted record is dropped if its key was emitted before, and added otherwise; only keys of
keyed entities are noted. -/
theorem emit_ok_cases {kept : Bool}
    (h : (d.emit next name r).run.run rows = (.ok (d', kept), rows')) :
    (keyedIn next name = true ∧ (name, r.key) ∈ d.emitted ∧ d' = d ∧ kept = false ∧ rows' = rows) ∨
      ∃ d₁, (d.add next name r).run.run rows = (.ok d₁, rows') ∧ kept = true ∧
        (keyedIn next name = true → (name, r.key) ∉ d.emitted) ∧
        d' = if keyedIn next name then { d₁ with emitted := (name, r.key) :: d₁.emitted }
          else d₁ := by
  unfold emit at h
  cases hkeyed : keyedIn next name with
  | true =>
    rw [hkeyed, if_pos rfl] at h
    by_cases hmem : d.emitted.contains (name, r.key) = true
    · rw [if_pos hmem] at h
      obtain ⟨hpair, rfl⟩ := Drawing.pure_ok_iff.1 h
      cases hpair
      exact .inl ⟨rfl, List.contains_iff_mem.1 hmem, rfl, rfl, rfl⟩
    · rw [if_neg hmem] at h
      obtain ⟨d₁, rows₁, hadd, hpure⟩ := Drawing.bind_ok_iff.1 h
      obtain ⟨hpair, rfl⟩ := Drawing.pure_ok_iff.1 hpure
      cases hpair
      refine .inr ⟨d₁, hadd, rfl, fun _ hm => hmem (List.contains_iff_mem.2 hm), ?_⟩
      rw [if_pos rfl]
  | false =>
    rw [hkeyed, if_neg Bool.false_ne_true] at h
    obtain ⟨d₁, rows₁, hadd, hpure⟩ := Drawing.bind_ok_iff.1 h
    obtain ⟨hpair, rfl⟩ := Drawing.pure_ok_iff.1 hpure
    cases hpair
    refine .inr ⟨d', hadd, rfl, fun hk => (by cases hk), ?_⟩
    rw [if_neg Bool.false_ne_true]

/-- Emitting a record extends a draft. -/
theorem extends_emit {kept : Bool}
    (h : (d.emit next name r).run.run rows = (.ok (d', kept), rows')) : Extends next d d' := by
  rcases emit_ok_cases h with ⟨-, -, rfl, -, -⟩ | ⟨d₁, hadd, -, -, rfl⟩
  · exact .refl next _
  · have hext := extends_add hadd
    split
    · exact ⟨hext.snapshot, hext.cleared, hext.touched, hext.known, hext.keys, hext.keyed⟩
    · exact hext

/-- What holds before records are emitted, and is handed on by each that is, holds after all. -/
theorem emitAll_induct (motive : List (String × Record) → Draft → RowCounter → Prop)
    (step : ∀ name r rest d rows d' kept rows', motive ((name, r) :: rest) d rows →
      (d.emit next name r).run.run rows = (.ok (d', kept), rows') → motive rest d' rows')
    {emitted : List (String × Record)} {dropped : Nat} (h0 : motive emitted d rows)
    (h : (emitAll next d emitted).run.run rows = (.ok (d', dropped), rows')) :
    motive [] d' rows' := by
  refine Drawing.foldlM_induct (fun rest (state : Draft × Nat) rows => motive rest state.1 rows) ?_
    h0 h
  rintro ⟨name, r⟩ rest ⟨d₁, n⟩ rows₁ ⟨d₂, n'⟩ rows₂ hd hstep
  obtain ⟨⟨d₃, kept⟩, rows₃, hemit, hpure⟩ := Drawing.bind_ok_iff.1 hstep
  obtain ⟨hpair, rfl⟩ := Drawing.pure_ok_iff.1 hpure
  cases hpair
  exact step name r rest d₁ rows₁ d₂ kept rows₂ hd hemit

/-- Emitting records extends a draft. -/
theorem extends_emitAll {emitted : List (String × Record)} {dropped : Nat}
    (h : (emitAll next d emitted).run.run rows = (.ok (d', dropped), rows')) :
    Extends next d d' := by
  refine emitAll_induct (fun _ d' _ => Extends next d d') ?_ (Extends.refl next d) h
  intro name r rest d₁ rows₁ d₂ kept rows₂ hd hemit
  exact hd.trans (extends_emit hemit)

/-- Inserting records extends a draft. -/
theorem extends_addAll {inserts : List (String × Record)}
    (h : (d.addAll next inserts).run.run rows = (.ok d', rows')) : Extends next d d' := by
  refine Drawing.foldlM_induct (fun _ d' _ => Extends next d d') ?_ (Extends.refl next d) h
  rintro ⟨name, r⟩ rest d₁ rows₁ d₂ rows₂ hd hadd
  exact hd.trans (extends_add hadd)

end Draft

end Strata
