import Strata.Proofs.Reachable

/-!
# Single inserts

An insert outside of a run takes a record or refuses it. The record is prepared for its entity
first: it is given a row number if the entity has no primary key, and every absent field that has a
default is filled (`Entity.Prepares`). What is stored is the prepared record, if nothing is wrong
with it and its key is free (`Store.Takes`); each other case has its own error (`Store.Refuses`),
and every case is one or the other. `Store.insert_exact` says what either leaves.

The live schema has to be read back first. One without entities cannot be, so a store that was set
up at such a version refuses every record for that, rather than for the entity that it does not have
(`Registry.exists_insert_unreadable`).
-/

namespace Strata

/-- A record with the fields and the key of another is that record. -/
theorem Record.ext_get? {r r' : Record} (hkey : r.key = r'.key)
    (h : ∀ name, r.get? name = r'.get? name) : r = r' := by
  obtain ⟨key, fields⟩ := r
  obtain ⟨key', fields'⟩ := r'
  obtain rfl : key = key' := hkey
  exact congrArg _ (Std.ExtTreeMap.ext_getElem? fun name => h name)

namespace Entity

variable {e : Entity} {record r : Record} {rows rows' : RowCounter}

/-- A record as it is prepared for an entity. Its key is its own or, without a primary key, the next
row number; its fields are those supplied, and defaults in the place of those that are absent. -/
structure Prepares (e : Entity) (record : Record) (rows : RowCounter) (r : Record)
    (rows' : RowCounter) : Prop where
  /-- With a primary key the record keeps its key, and no row number is drawn. -/
  keyed : e.isKeyed = true → r.key = record.key ∧ rows' = rows
  /-- Without a primary key the next row number is the key. -/
  row : e.isKeyed = false → ∃ n, rows.draw? = some (n, rows') ∧ r.key = .row n
  /-- A field that was supplied is unaltered. -/
  supplied : ∀ name value, record.get? name = some value → r.get? name = some value
  /-- An absent field receives its default, if there is one. -/
  filled : ∀ f ∈ e.fields, record.get? f.name = none → r.get? f.name = f.effectiveDefault?
  /-- No other field is set. -/
  others : ∀ name, record.get? name = none → e.hasField name = false → r.get? name = none

/-- The fields of a prepared record are those supplied with the defaults filled. -/
theorem Prepares.get?_eq (h : e.Prepares record rows r rows') (hnames : e.fieldNames.Nodup)
    (name : String) :
    r.get? name = (record.get? name).or ((e.field? name).bind Field.effectiveDefault?) := by
  cases hrecord : record.get? name with
  | some value => exact h.supplied name value hrecord
  | none =>
    rw [Option.none_or]
    cases hfield : e.field? name with
    | some f =>
      obtain rfl : f.name = name := by simpa using List.find?_some hfield
      exact h.filled f (List.mem_of_find?_eq_some hfield) hrecord
    | none =>
      refine h.others name hrecord ?_
      rw [← Bool.not_eq_true, hasField_iff]
      rintro ⟨f, hf, rfl⟩
      rw [field?_of_mem hnames hf] at hfield
      cases hfield

/-- A record under a key of the right kind is prepared by filling its defaults. -/
theorem prepares_fillDefaults (hnames : e.fieldNames.Nodup) (key : Key)
    (hkeyed : e.isKeyed = true → key = record.key ∧ rows' = rows)
    (hrow : e.isKeyed = false → ∃ n, rows.draw? = some (n, rows') ∧ key = .row n) :
    e.Prepares record rows (e.fillDefaults (record.withKey key)) rows' := by
  have hfields : ∀ name, (e.fillDefaults (record.withKey key)).get? name =
      (record.get? name).or ((e.field? name).bind Field.effectiveDefault?) :=
    get?_fillDefaults hnames (record.withKey key)
  refine ⟨fun h => ?_, fun h => ?_, fun name value hrecord => ?_, fun f hf hrecord => ?_,
    fun name hrecord habsent => ?_⟩
  · rw [key_fillDefaults]
    exact hkeyed h
  · rw [key_fillDefaults]
    exact hrow h
  · rw [hfields, hrecord, Option.some_or]
  · rw [hfields, hrecord, Option.none_or, field?_of_mem hnames hf]
    rfl
  · have hnone : e.field? name = none := by
      rw [field?, List.find?_eq_none]
      intro f hf hname
      rw [hasField_iff.2 ⟨f, hf, beq_iff_eq.1 hname⟩] at habsent
      cases habsent
    rw [hfields, hrecord, hnone]
    rfl

/-- To prepare a record is to complete it. -/
theorem prepares_iff_completes (hnames : e.fieldNames.Nodup) :
    e.Prepares record rows r rows' ↔ e.Completes record rows r rows' := by
  constructor
  · intro h
    have hfilled : ∀ key, r.key = key → r = e.fillDefaults (record.withKey key) := by
      intro key hkey
      refine Record.ext_get? ?_ fun name => ?_
      · rw [key_fillDefaults]
        exact hkey
      · rw [h.get?_eq hnames, get?_fillDefaults hnames]
        rfl
    cases hkeyed : e.isKeyed with
    | true =>
      obtain ⟨hkey, rfl⟩ := h.keyed hkeyed
      rw [hfilled _ hkey]
      exact .keyed hkeyed
    | false =>
      obtain ⟨n, hdraw, hkey⟩ := h.row hkeyed
      rw [hfilled _ hkey]
      exact .row hkeyed hdraw
  · intro h
    cases h with
    | keyed hkeyed =>
      refine prepares_fillDefaults hnames record.key (fun _ => ⟨rfl, rfl⟩) fun hrow => ?_
      rw [hkeyed] at hrow
      cases hrow
    | row hrow hdraw =>
      refine prepares_fillDefaults hnames _ (fun hkeyed => ?_) fun _ => ⟨_, hdraw, rfl⟩
      rw [hrow] at hkeyed
      cases hkeyed

/-- A record is completed unless it needs a row number and none is left. -/
theorem completes_or_exhausted (e : Entity) (record : Record) (rows : RowCounter) :
    (∃ r rows', e.Completes record rows r rows') ∨ e.isKeyed = false ∧ rows.draw? = none := by
  cases hkeyed : e.isKeyed with
  | true => exact .inl ⟨_, _, .keyed hkeyed⟩
  | false =>
    cases hdraw : rows.draw? with
    | some drawn => exact .inl ⟨_, _, .row hkeyed hdraw⟩
    | none => exact .inr ⟨rfl, rfl⟩

end Entity

namespace Store

variable {s s' : Store} {name : String} {record r : Record} {rows : RowCounter} {schema : Schema}
  {e : Entity}

/-- A store takes a record as another: it has a live schema with the entity, for which the one is
prepared as the other, nothing is wrong with that, and no record is stored under its key. -/
structure Takes (s : Store) (name : String) (record r : Record) (rows : RowCounter) : Prop where
  /-- The live schema has the entity, and the prepared record fits it. -/
  fits : ∃ schema e, s.schema? = some schema ∧ schema.entity? name = some e ∧
    e.Prepares record s.rows r rows ∧ e.issues r = []
  /-- The key is free. -/
  free : s.get? name r.key = none

/-- A store refuses a record, with the row numbers that are handed out afterwards. -/
inductive Refuses (s : Store) (name : String) (record : Record) : StoreError → RowCounter → Prop
  /-- There is no live schema. -/
  | noSchema (hlive : s.schema? = none) :
      Refuses s name record (.invalidData "store has no schema") s.rows
  /-- The live schema has no entities, and cannot be read back. -/
  | unreadable {schema : Schema} (hlive : s.schema? = some schema)
      (hempty : schema.entities.isEmpty = true) : Refuses s name record .schemaUnreadable s.rows
  /-- The live schema has other entities. -/
  | unknownEntity {schema : Schema} (hlive : s.schema? = some schema)
      (hsome : schema.entities.isEmpty = false) (habsent : schema.entity? name = none) :
      Refuses s name record (.unknownEntity name) s.rows
  /-- The record needs a row number, and none is left. -/
  | exhausted {schema : Schema} {e : Entity} (hlive : s.schema? = some schema)
      (he : schema.entity? name = some e) (hkeyed : e.isKeyed = false)
      (hdraw : s.rows.draw? = none) : Refuses s name record .rowsExhausted s.rows
  /-- Something is wrong with the prepared record. -/
  | issue {schema : Schema} {e : Entity} {r : Record} {rows : RowCounter} {issue : Issue}
      {more : List Issue} (hlive : s.schema? = some schema) (he : schema.entity? name = some e)
      (hprepares : e.Prepares record s.rows r rows) (hissues : e.issues r = issue :: more) :
      Refuses s name record (.invalidData (name ++ " " ++ r.key.text ++ ": " ++ issue.text)) rows
  /-- A record is stored under the key. -/
  | taken {schema : Schema} {e : Entity} {r other : Record} {rows : RowCounter}
      (hlive : s.schema? = some schema) (he : schema.entity? name = some e)
      (hprepares : e.Prepares record s.rows r rows) (hissues : e.issues r = [])
      (hother : s.get? name r.key = some other) :
      Refuses s name record (.duplicateKey name r.key) rows

/-- A live schema with entities can be read back. -/
theorem readSchema_of_isEmpty_eq_false (hlive : s.schema? = some schema)
    (hsome : schema.entities.isEmpty = false) : s.readSchema = .ok (some schema) := by
  unfold readSchema
  rw [hlive]
  dsimp only
  rw [hsome, if_neg Bool.false_ne_true]

/-- A live schema with an entity can be read back. -/
theorem readSchema_of_entity? (hlive : s.schema? = some schema)
    (he : schema.entity? name = some e) : s.readSchema = .ok (some schema) := by
  refine readSchema_of_isEmpty_eq_false hlive ?_
  rw [Std.ExtTreeMap.isEmpty_eq_false_iff]
  intro hempty
  unfold Schema.entity? at he
  rw [hempty, Std.ExtTreeMap.getElem?_empty] at he
  cases he

/-- An insert of a record that is completed looks at the complete record. -/
theorem insert_of_completes (hlive : s.schema? = some schema) (he : schema.entity? name = some e)
    (h : e.Completes record s.rows r rows) :
    ∃ r₀, r = e.fillDefaults r₀ ∧
      s.insert name record = insertFilled { s with rows } name e r₀ := by
  have hread := readSchema_of_entity? hlive he
  cases h with
  | keyed hkeyed =>
    refine ⟨record, rfl, ?_⟩
    unfold insert
    rw [hread]
    dsimp only
    rw [he]
    dsimp only
    rw [if_pos hkeyed]
  | @row n _ hkeyed hdraw =>
    refine ⟨record.withKey (.row n), rfl, ?_⟩
    unfold insert drawRow
    rw [hread]
    dsimp only
    rw [he]
    dsimp only
    rw [hkeyed, if_neg Bool.false_ne_true, hdraw]

/-- A store gains a record of an entity, and nothing else about it changes but the row numbers that
are handed out. -/
structure Gains (s s' : Store) (name : String) (r : Record) : Prop where
  /-- No record was stored under the key. -/
  free : s.get? name r.key = none
  /-- The record is stored. -/
  gained : s'.get? name r.key = some r
  /-- All that is stored under other keys is as it was. -/
  others : ∀ bytes, bytes ≠ StorageKey.encode name r.key → s'.records[bytes]? = s.records[bytes]?
  /-- So are the header, the schema, the journal and the preferences. -/
  rest : s' = { s with records := s'.records, rows := s'.rows }

/-- Under NUL-free names, the other keys are those of the other records. -/
theorem Gains.get?_of_ne (h : s.Gains s' name r) (hname : NulFree name) {other : String} {key : Key}
    (hother : NulFree other) (hne : (other, key) ≠ (name, r.key)) :
    s'.get? other key = s.get? other key := by
  refine h.others _ fun hbytes => hne ?_
  obtain ⟨rfl, rfl⟩ := StorageKey.encode_injective hother hname hbytes
  rfl

/-- A record that is taken is all that the store gains. -/
theorem Takes.gains (h : s.Takes name record r rows) :
    s.Gains (putRecord { s with rows } name r) name r := by
  refine ⟨h.free, ?_, fun bytes hne => ?_, rfl⟩
  · unfold putRecord get?
    exact Std.ExtTreeMap.getElem?_insert_self
  · unfold putRecord
    rw [getElem?_insert_eq_ite, if_neg (Ne.symm hne)]

section DistinctFields

variable (hnames : ∀ schema, s.schema? = some schema → schema.DistinctFields)
include hnames

/-- An insert of a record that is prepared looks at the prepared record. -/
theorem insert_of_prepares (hlive : s.schema? = some schema) (he : schema.entity? name = some e)
    (h : e.Prepares record s.rows r rows) :
    ∃ r₀, r = e.fillDefaults r₀ ∧
      s.insert name record = insertFilled { s with rows } name e r₀ :=
  insert_of_completes hlive he ((Entity.prepares_iff_completes (hnames _ hlive name e he)).1 h)

/-- A record that is taken is stored as it was prepared. -/
theorem Takes.insert_eq (h : s.Takes name record r rows) :
    s.insert name record = (.ok r.key, putRecord { s with rows } name r) := by
  obtain ⟨⟨schema, e, hlive, he, hprepares, hissues⟩, hfree⟩ := h
  obtain ⟨r₀, rfl, hinsert⟩ := insert_of_prepares hnames hlive he hprepares
  have hfree' : get? { s with rows } name (e.fillDefaults r₀).key = none := hfree
  rw [hinsert]
  unfold insertFilled
  dsimp only
  rw [hissues]
  dsimp only
  rw [hfree']
  rfl

/-- A record that is refused is refused with the error of its case, and row numbers are all that is
used up. -/
theorem Refuses.insert_eq {error : StoreError} (h : s.Refuses name record error rows) :
    s.insert name record = (.error error, { s with rows }) := by
  cases h with
  | noSchema hlive =>
    have hread : s.readSchema = .ok none := by
      unfold readSchema
      rw [hlive]
    unfold insert
    rw [hread]
  | @unreadable schema hlive hempty =>
    have hread : s.readSchema = .error .schemaUnreadable := by
      unfold readSchema
      rw [hlive]
      exact if_pos hempty
    unfold insert
    rw [hread]
  | unknownEntity hlive hsome habsent =>
    unfold insert
    rw [readSchema_of_isEmpty_eq_false hlive hsome]
    dsimp only
    rw [habsent]
  | exhausted hlive he hkeyed hdraw =>
    unfold insert drawRow
    rw [readSchema_of_entity? hlive he]
    dsimp only
    rw [he]
    dsimp only
    rw [hkeyed, if_neg Bool.false_ne_true, hdraw]
  | issue hlive he hprepares hissues =>
    obtain ⟨r₀, rfl, hinsert⟩ := insert_of_prepares hnames hlive he hprepares
    rw [hinsert]
    unfold insertFilled
    dsimp only
    rw [hissues]
  | taken hlive he hprepares hissues hother =>
    obtain ⟨r₀, rfl, hinsert⟩ := insert_of_prepares hnames hlive he hprepares
    have hother' : get? { s with rows } name (Entity.fillDefaults _ r₀).key = some _ := hother
    rw [hinsert]
    unfold insertFilled
    dsimp only
    rw [hissues]
    dsimp only
    rw [hother']
    rfl

/-- Every record is taken or refused. -/
theorem takes_or_refuses (name : String) (record : Record) :
    (∃ r rows, s.Takes name record r rows) ∨ ∃ error rows, s.Refuses name record error rows := by
  cases hlive : s.schema? with
  | none => exact .inr ⟨_, _, .noSchema hlive⟩
  | some schema =>
  cases he : schema.entity? name with
  | none =>
    cases hempty : schema.entities.isEmpty with
    | true => exact .inr ⟨_, _, .unreadable hlive hempty⟩
    | false => exact .inr ⟨_, _, .unknownEntity hlive hempty he⟩
  | some e =>
  rcases e.completes_or_exhausted record s.rows with ⟨r, rows, hcompletes⟩ | ⟨hkeyed, hdraw⟩
  · have hprepares := (Entity.prepares_iff_completes (hnames _ hlive name e he)).2 hcompletes
    cases hissues : e.issues r with
    | cons issue more => exact .inr ⟨_, _, .issue hlive he hprepares hissues⟩
    | nil =>
      cases hget : s.get? name r.key with
      | some other => exact .inr ⟨_, _, .taken hlive he hprepares hissues hget⟩
      | none => exact .inl ⟨r, rows, ⟨schema, e, hlive, he, hprepares, hissues⟩, hget⟩
  · exact .inr ⟨_, _, .exhausted hlive he hkeyed hdraw⟩

/-- A record is accepted exactly if the store takes it, under the key that it was prepared with. -/
theorem insert_ok_iff {key : Key} :
    (s.insert name record).1 = .ok key ↔ ∃ r rows, s.Takes name record r rows ∧ key = r.key := by
  constructor
  · intro hok
    rcases takes_or_refuses hnames name record with ⟨r, rows, h⟩ | ⟨error, rows, h⟩
    · rw [h.insert_eq hnames] at hok
      cases hok
      exact ⟨r, rows, h, rfl⟩
    · rw [h.insert_eq hnames] at hok
      cases hok
  · rintro ⟨r, rows, h, rfl⟩
    rw [h.insert_eq hnames]

/-- A record is refused exactly in the case that the error belongs to. -/
theorem insert_error_iff {error : StoreError} :
    (s.insert name record).1 = .error error ↔ ∃ rows, s.Refuses name record error rows := by
  constructor
  · intro herror
    rcases takes_or_refuses hnames name record with ⟨r, rows, h⟩ | ⟨error', rows, h⟩
    · rw [h.insert_eq hnames] at herror
      cases herror
    · rw [h.insert_eq hnames] at herror
      cases herror
      exact ⟨rows, h⟩
  · rintro ⟨rows, h⟩
    rw [h.insert_eq hnames]

end DistinctFields

/-- **Single inserts.** Take any store whose live schema, if it has one, has NUL-free names of
entities and distinct field names. A record is accepted exactly if the store takes it, under the key
that it was prepared with; then the prepared record is all that the store gains, and all other
records are as they were. Any other record is refused, with the error of the case that it falls
under, and nothing that is stored changes. -/
theorem insert_exact
    (hlive : ∀ schema, s.schema? = some schema → schema.NulFreeNames ∧ schema.DistinctFields)
    (name : String) (record : Record) :
    (∀ key, (s.insert name record).1 = .ok key ↔
      ∃ r rows, s.Takes name record r rows ∧ key = r.key) ∧
    (∀ r rows, s.Takes name record r rows →
      s.Gains (s.insert name record).2 name r ∧
        ∀ other key, NulFree other → (other, key) ≠ (name, r.key) →
          (s.insert name record).2.get? other key = s.get? other key) ∧
    (∀ error, (s.insert name record).1 = .error error ↔
      ∃ rows, s.Refuses name record error rows) ∧
    ∀ error, (s.insert name record).1 = .error error →
      ∃ rows, (s.insert name record).2 = { s with rows } := by
  have hnames : ∀ schema, s.schema? = some schema → schema.DistinctFields :=
    fun schema hschema => (hlive schema hschema).2
  refine ⟨fun key => insert_ok_iff hnames, fun r rows h => ?_, fun error => insert_error_iff hnames,
    fun error herror => ?_⟩
  · obtain ⟨schema, e, hschema, he, -, -⟩ := h.fits
    have hname : NulFree name := (hlive schema hschema).1 name (Schema.hasEntity_of_entity? he)
    rw [h.insert_eq hnames]
    exact ⟨h.gains, fun other key hother hne => h.gains.get?_of_ne hname hother hne⟩
  · obtain ⟨rows, h⟩ := (insert_error_iff hnames).1 herror
    exact ⟨rows, by rw [h.insert_eq hnames]⟩

/-- Notes without a primary key, whose size is zero unless it is given. -/
def noteTable : Entity := ⟨"Note", [(Field.plain "size" .int).withDefault (.int 0)]⟩

/-- A store of such notes without records. -/
def ofNotes : Store := { empty with schema? := some (.ofList 0 [noteTable]) }

/-- A note without a size is taken under the next row number, with the default of its size. -/
theorem insert_exact_note :
    ∃ r rows, ofNotes.Takes "Note" .keyless r rows ∧ r.get? "size" = some (.int 0) ∧
      (ofNotes.insert "Note" .keyless).1 = .ok (.row 0) ∧
      (ofNotes.insert "Note" .keyless).2.get? "Note" (.row 0) = some r := by
  obtain ⟨rows, hdraw⟩ : ∃ rows, ofNotes.rows.draw? = some (0, rows) := ⟨_, rfl⟩
  have hlive : ∀ schema, ofNotes.schema? = some schema →
      schema.NulFreeNames ∧ schema.DistinctFields := by
    rintro schema ⟨⟩
    exact ⟨Schema.nulFreeNames_ofList (by decide),
      (Schema.wellFormed_ofList (by decide) (by decide) (by decide)).distinct⟩
  have hprepares : noteTable.Prepares .keyless ofNotes.rows
      (noteTable.fillDefaults (Record.keyless.withKey (.row 0))) rows :=
    (Entity.prepares_iff_completes (by decide)).2 (.row rfl hdraw)
  have htakes : ofNotes.Takes "Note" .keyless
      (noteTable.fillDefaults (Record.keyless.withKey (.row 0))) rows :=
    ⟨⟨_, noteTable, rfl, rfl, hprepares, rfl⟩, rfl⟩
  obtain ⟨hok, hgains, -, -⟩ := insert_exact hlive "Note" .keyless
  exact ⟨_, rows, htakes, rfl, (hok _).2 ⟨_, rows, htakes, rfl⟩, (hgains _ rows htakes).1.gained⟩

end Store

/-- A run sets a store up at a version without entities. The live schema cannot be read back from
then on, so an insert is refused for that, although all there is to refuse is an unknown entity. -/
theorem Registry.exists_insert_unreadable :
    ∃ registry s record, Registry.build (.empty 3) [] = .ok registry ∧
      s = (registry.run .standard .empty).store ∧ s.schema? = some (.empty 3) ∧
      (Schema.empty 3).entity? "E" = none ∧
      (s.insert "E" record).1 = .error .schemaUnreadable ∧
      (s.insert "E" record).1 ≠ .error (.unknownEntity "E") := by
  refine ⟨_, _, .keyless, rfl, rfl, rfl, rfl, rfl, ?_⟩
  exact nofun

end Strata
