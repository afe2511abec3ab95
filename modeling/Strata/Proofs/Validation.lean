import Strata.Proofs.Totality

/-!
# Records without issues

A record has no issue exactly when every defined field holds a value that it admits, every field of
the record is defined, and the key is the one that the entity asks for (`Entity.Agrees`): the key
that the primary-key field mirrors (`Key.Mirrored`), or a row number without such a field. The check
of keys alone lets a row number pass whose record lacks the primary-key field
(`Entity.keyFits_iff_of_primaryKey`), but then the field itself is missed.

A value mirrors one key at most, so the primary-key field of a record without issues tells its key.
Neither a table nor a scan of a store has two such records with one value there
(`Entity.nodup_primaryKeys`, `Store.Holds.nodup_primaryKeys`).
-/

namespace Strata

/-- A value mirrors a key: both are the same integer or the same text. -/
inductive Key.Mirrored : Key → Value → Prop
  /-- An integer. -/
  | int (i : Int64) : Mirrored (.int i) (.int i)
  /-- A text. -/
  | str (s : String) : Mirrored (.str s) (.str s)

namespace Key

variable {key key' : Key} {value : Value}

/-- A value mirrors a key exactly when it is the value that a primary-key field holds for it. -/
theorem mirrored_iff : key.Mirrored value ↔ key.fieldValue? = some value := by
  constructor
  · intro h
    cases h <;> rfl
  · intro h
    cases key with
    | int i =>
      cases h
      exact .int i
    | str s =>
      cases h
      exact .str s
    | row n => cases h

/-- A value mirrors one key at most. -/
theorem Mirrored.unique (h : key.Mirrored value) (h' : key'.Mirrored value) : key = key' := by
  cases h <;> cases h' <;> rfl

/-- A key without a value is a row number. -/
theorem fieldValue?_eq_none_iff : key.fieldValue? = none ↔ ∃ n, key = .row n := by
  cases key <;> simp [fieldValue?]

/-- A row number, and no other key, is a row. -/
theorem isRow_iff : key.isRow = true ↔ ∃ n, key = .row n := by
  cases key <;> simp [isRow]

end Key

namespace Entity

/-- The key of a record is the one that an entity asks for: the key that the primary-key field
mirrors, or a row number if there is no such field. -/
def Agrees (e : Entity) (r : Record) : Prop :=
  match e.primaryKey? with
  | some pk => ∃ value, r.get? pk.name = some value ∧ r.key.Mirrored value
  | none => ∃ n, r.key = .row n

variable {e : Entity} {pk : Field} {r r' : Record}

/-- The key of a record of a keyed entity passes if the primary-key field mirrors it, and also if it
is a row number and the field is absent. -/
theorem keyFits_iff_of_primaryKey (hpk : e.primaryKey? = some pk) :
    e.keyFits r = true ↔ e.Agrees r ∨ ((∃ n, r.key = .row n) ∧ r.get? pk.name = none) := by
  unfold keyFits Agrees
  rw [hpk]
  dsimp only
  rw [beq_iff_eq]
  cases hvalue : r.get? pk.name with
  | none => simp [Key.fieldValue?_eq_none_iff]
  | some value => simp [Key.mirrored_iff]

/-- A record without issues has the key that its entity asks for; no more is asked of the key. -/
theorem fits_iff_agrees : e.Fits r ↔
    (∀ f ∈ e.fields, ∃ value, r.get? f.name = some value ∧ f.admits value = true) ∧
    (∀ name value, r.get? name = some value → ∃ f ∈ e.fields, f.name = name) ∧ e.Agrees r := by
  have hdefined : (∀ name, r.has name = true → e.hasField name = true) ↔
      ∀ name value, r.get? name = some value → ∃ f ∈ e.fields, f.name = name := by
    refine forall_congr' fun name => ?_
    rw [r.has_eq_isSome, Option.isSome_iff_exists, hasField_iff]
    exact ⟨fun h value hvalue => h ⟨value, hvalue⟩, fun h ⟨value, hvalue⟩ => h value hvalue⟩
  have hkey : (∀ f ∈ e.fields, ∃ value, r.get? f.name = some value ∧ f.admits value = true) →
      (e.keyFits r = true ↔ e.Agrees r) := by
    intro hadmitted
    cases hpk : e.primaryKey? with
    | none =>
      unfold keyFits Agrees
      rw [hpk]
      exact Key.isRow_iff
    | some pk =>
      -- The primary-key field is one of the fields, so it is not absent.
      obtain ⟨value, hvalue, -⟩ := hadmitted pk (List.mem_of_find?_eq_some hpk)
      rw [keyFits_iff_of_primaryKey hpk, or_iff_left]
      rintro ⟨-, habsent⟩
      rw [hvalue] at habsent
      cases habsent
  constructor
  · rintro ⟨hadmitted, hfields, hfits⟩
    exact ⟨hadmitted, hdefined.1 hfields, (hkey hadmitted).1 hfits⟩
  · rintro ⟨hadmitted, hfields, hagrees⟩
    exact ⟨hadmitted, hdefined.2 hfields, (hkey hadmitted).2 hagrees⟩

/-- The primary-key field of a record that fits tells its key. -/
theorem Fits.key_eq (hpk : e.primaryKey? = some pk) (h : e.Fits r) (h' : e.Fits r')
    (hvalue : r.get? pk.name = r'.get? pk.name) : r.key = r'.key := by
  have hagrees := (fits_iff_agrees.1 h).2.2
  have hagrees' := (fits_iff_agrees.1 h').2.2
  unfold Agrees at hagrees hagrees'
  rw [hpk] at hagrees hagrees'
  obtain ⟨value, hget, hmirrored⟩ := hagrees
  obtain ⟨value', hget', hmirrored'⟩ := hagrees'
  rw [hvalue, hget'] at hget
  cases hget
  exact hmirrored.unique hmirrored'

/-- No two records that fit, with keys of their own, have one value in the primary-key field. -/
theorem nodup_primaryKeys (hpk : e.primaryKey? = some pk) {records : List Record}
    (hkeys : (records.map (·.key)).Nodup) (hfits : ∀ r ∈ records, e.Fits r) :
    (records.map (·.get? pk.name)).Nodup := by
  unfold List.Nodup at hkeys ⊢
  rw [List.pairwise_map] at hkeys ⊢
  refine hkeys.imp_of_mem fun {r r'} hr hr' hne hvalue => ?_
  exact hne ((hfits r hr).key_eq hpk (hfits r' hr') hvalue)

/-- **Validation is exact, and the primary key tells the key.** A record has no issue exactly when
every defined field holds a value that it admits, every field of the record is defined, and the key
is the integer or the text that the primary-key field mirrors or, for an entity without such a
field, a row number. So two records without issues that have one value in the primary-key field have
one key, and a table of such records by their keys holds no value there twice. -/
theorem issues_exact (e : Entity) :
    (∀ r, e.issues r = [] ↔
      (∀ f ∈ e.fields, ∃ value, r.get? f.name = some value ∧ f.admits value = true) ∧
      (∀ name value, r.get? name = some value → ∃ f ∈ e.fields, f.name = name) ∧
      e.Agrees r) ∧
    ∀ pk, e.primaryKey? = some pk →
      (∀ r r', e.issues r = [] → e.issues r' = [] → r.get? pk.name = r'.get? pk.name →
        r.key = r'.key) ∧
      ∀ t : Table, t.Keyed → (∀ r ∈ t.values, e.issues r = []) →
        (t.values.map (·.get? pk.name)).Nodup := by
  refine ⟨fun r => ?_, fun pk hpk => ⟨fun r r' h h' => ?_, fun t ht h => ?_⟩⟩
  · rw [← fits_iff, fits_iff_agrees]
  · exact (fits_iff.2 h).key_eq hpk (fits_iff.2 h')
  · exact nodup_primaryKeys hpk ht.nodup_keys_values fun r hr => fits_iff.2 (h r hr)

/-- Memos by number, whose text may be missing. -/
def memos : Entity := ⟨"Memo", [.primary "id" .int, .optional "text" .str]⟩

/-- A memo without a text. -/
def blankMemo (id : Int64) : Record := (Record.keyed "id" (.int id)).set "text" .null

/-- A table of two memos: they have no issues, and different numbers. -/
theorem issues_exact_memos :
    memos.primaryKey? = some (.primary "id" .int) ∧ memos.issues (blankMemo 1) = [] ∧
      memos.Agrees (blankMemo 1) ∧ (Table.ofRecords [blankMemo 1, blankMemo 2]).Keyed ∧
      (∀ r ∈ (Table.ofRecords [blankMemo 1, blankMemo 2]).values, memos.issues r = []) ∧
      ((Table.ofRecords [blankMemo 1, blankMemo 2]).values.map (·.get? "id")).Nodup := by
  obtain ⟨hexact, hkeys⟩ := issues_exact memos
  have hissues : ∀ r ∈ [blankMemo 1, blankMemo 2], memos.issues r = [] := by decide
  have hkeyed := Table.keyed_ofRecords [blankMemo 1, blankMemo 2]
  have htable : ∀ r ∈ (Table.ofRecords [blankMemo 1, blankMemo 2]).values,
      memos.issues r = [] := by
    intro r hr
    obtain ⟨key, hkey⟩ := mem_values_iff.1 hr
    exact hissues r (Table.mem_of_getElem?_ofRecords hkey)
  have hfirst := hissues (blankMemo 1) List.mem_cons_self
  exact ⟨rfl, hfirst, ((hexact (blankMemo 1)).1 hfirst).2.2, hkeyed, htable,
    (hkeys _ rfl).2 _ hkeyed htable⟩

-- A row number passes as the key of a memo without a number, but the number is missed.
example : memos.issues ((Record.ofKey (.row 0)).set "text" .null) = [.missingField "id"] := by
  decide

end Entity

/-- In a store of the records of a schema, a scan of a keyed entity lists no value of the primary
key twice. -/
theorem Store.Holds.nodup_primaryKeys {s : Store} {schema : Schema} (h : s.Holds schema)
    (hnames : schema.NulFreeNames) {name : String} {e : Entity} {pk : Field}
    (he : schema.entity? name = some e) (hpk : e.primaryKey? = some pk) :
    ((s.scan name).map (·.get? pk.name)).Nodup := by
  have hname : NulFree name := hnames name (Schema.hasEntity_of_entity? he)
  refine Entity.nodup_primaryKeys hpk ((h.filed hnames).nodup_keys_scan hname) fun r hr => ?_
  exact Entity.fits_iff.2 (h.readsFit hnames.namesApart name e he r hr)

end Strata
