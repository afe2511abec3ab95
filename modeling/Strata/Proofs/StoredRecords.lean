import Strata.Proofs.Fit
import Strata.Proofs.StorageKeys
import Strata.Proofs.Tables
import Strata.Store.Transaction

/-!
# Records of a store

A store is `Filed` when every record is stored under an entity name without the null character and
its own key. Every way of storing records keeps a store filed, and in a filed store the records of
an entity are what its keys give: a scan lists them (`Store.Filed.mem_scan_iff`), and a snapshot
holds them in its tables (`Store.Filed.getElem?_table_snapshot`). What a list of writes leaves under
a key is decided by the writes to that key alone (`Store.get?_applyWrites`).
-/

namespace Strata

/-- The names of a schema are those of its entities. -/
theorem Schema.mem_names_iff {schema : Schema} {name : String} :
    name ∈ schema.names ↔ schema.hasEntity name = true := by
  unfold names hasEntity
  rw [Std.ExtTreeMap.mem_keys, Std.ExtTreeMap.mem_iff_contains]

namespace Store

/-- Every record is stored under an entity name without the null character and its own key. -/
def Filed (s : Store) : Prop := ∀ (bytes : Bytes) (r : Record), s.records[bytes]? = some r →
  ∃ entity, NulFree entity ∧ bytes = StorageKey.encode entity r.key

/-- A record found under a key has that key. -/
theorem Filed.key_of_get? {s : Store} (h : s.Filed) {entity : String} (hname : NulFree entity)
    {key : Key} {r : Record} (hr : s.get? entity key = some r) : r.key = key := by
  obtain ⟨other, hother, hbytes⟩ := h _ _ hr
  exact (StorageKey.encode_injective hname hother hbytes).2.symm

/-- The scanned entries of an entity are the records found under its keys. -/
theorem Filed.mem_entries_iff {s : Store} (h : s.Filed) {entity : String} (hname : NulFree entity)
    {bytes : Bytes} {r : Record} :
    (bytes, r) ∈ s.entries entity ↔
      s.get? entity r.key = some r ∧ bytes = StorageKey.encode entity r.key := by
  unfold entries
  rw [List.mem_filter, Std.ExtTreeMap.mem_toList_iff_getElem?_eq_some]
  constructor
  · rintro ⟨hr, hopening⟩
    obtain ⟨other, hother, rfl⟩ := h bytes r hr
    have hsame := (StorageKey.opening_isPrefixOf_encode hname hother).1 hopening
    subst hsame
    exact ⟨hr, rfl⟩
  · rintro ⟨hr, rfl⟩
    exact ⟨hr, (StorageKey.opening_isPrefixOf_encode hname hname).2 rfl⟩

/-- A scan of an entity lists the records found under its keys. -/
theorem Filed.mem_scan_iff {s : Store} (h : s.Filed) {entity : String} (hname : NulFree entity)
    {r : Record} : r ∈ s.scan entity ↔ s.get? entity r.key = some r := by
  unfold scan
  rw [List.mem_map]
  constructor
  · rintro ⟨⟨bytes, r⟩, hmem, rfl⟩
    exact ((h.mem_entries_iff hname).1 hmem).1
  · intro hr
    exact ⟨(_, r), (h.mem_entries_iff hname).2 ⟨hr, rfl⟩, rfl⟩

/-- A scan of an entity lists no key twice. -/
theorem Filed.nodup_keys_scan {s : Store} (h : s.Filed) {entity : String}
    (hname : NulFree entity) : ((s.scan entity).map (·.key)).Nodup := by
  have hdistinct : (s.entries entity).Pairwise fun a b => ¬compare a.1 b.1 = .eq :=
    Std.ExtTreeMap.distinct_keys_toList.sublist List.filter_sublist
  unfold scan
  rw [List.map_map, List.Nodup, List.pairwise_map]
  refine hdistinct.imp_of_mem fun {a b} ha hb hne heq => hne ?_
  -- Equal keys of one entity have equal storage keys.
  rw [((h.mem_entries_iff hname).1 ha).2, ((h.mem_entries_iff hname).1 hb).2,
    Std.LawfulEqCmp.compare_eq_iff_eq]
  exact congrArg (StorageKey.encode entity) heq

/-! ## Stored entities -/

/-- The owners of storage keys are read back, and are the entities that the keys were made for. -/
theorem exists_keyOwners {keys : List Bytes}
    (h : ∀ bytes ∈ keys, ∃ name key, NulFree name ∧ bytes = StorageKey.encode name key) :
    ∃ owners, keyOwners keys = .ok owners ∧
      ∀ name, name ∈ owners ↔ NulFree name ∧ ∃ key, StorageKey.encode name key ∈ keys := by
  induction keys with
  | nil => exact ⟨[], rfl, fun name => ⟨nofun, fun ⟨_, _, hmem⟩ => nomatch hmem⟩⟩
  | cons bytes rest ih =>
    obtain ⟨name, key, hname, rfl⟩ := h bytes List.mem_cons_self
    obtain ⟨owners, howners, hall⟩ := ih fun b hb => h b (List.mem_cons_of_mem _ hb)
    refine ⟨name :: owners, ?_, fun other => ?_⟩
    · unfold keyOwners
      rw [StorageKey.decode?_encode hname]
      dsimp only
      rw [howners]
      rfl
    · rw [List.mem_cons, hall]
      constructor
      · rintro (rfl | ⟨hother, key', hmem⟩)
        · exact ⟨hname, key, List.mem_cons_self⟩
        · exact ⟨hother, key', List.mem_cons_of_mem _ hmem⟩
      · rintro ⟨hother, key', hmem⟩
        rcases List.mem_cons.1 hmem with heq | hmem
        · exact .inl (StorageKey.encode_injective hother hname heq).1
        · exact .inr ⟨hother, key', hmem⟩

/-- The stored entities of a filed store are read back, and are the entities that have records. -/
theorem Filed.exists_storedEntities {s : Store} (h : s.Filed) :
    ∃ stored, s.storedEntities = .ok stored ∧
      ∀ name, name ∈ stored ↔ NulFree name ∧ s.scan name ≠ [] := by
  have hbound : ∀ bytes, bytes ∈ s.records.keys ↔ ∃ r, s.records[bytes]? = some r := by
    intro bytes
    rw [Std.ExtTreeMap.mem_keys, Std.ExtTreeMap.mem_iff_contains, contains_eq_isSome,
      Option.isSome_iff_exists]
  have hkeys : ∀ bytes ∈ s.records.keys, ∃ name key, NulFree name ∧
      bytes = StorageKey.encode name key := by
    intro bytes hbytes
    obtain ⟨r, hr⟩ := (hbound bytes).1 hbytes
    obtain ⟨name, hname, hencode⟩ := h bytes r hr
    exact ⟨name, r.key, hname, hencode⟩
  obtain ⟨owners, howners, hall⟩ := exists_keyOwners hkeys
  refine ⟨(Std.ExtTreeSet.ofList owners compare).toList, ?_, fun name => ?_⟩
  · unfold storedEntities
    rw [howners]
    rfl
  · rw [Std.ExtTreeSet.mem_toList, Std.ExtTreeSet.mem_ofList, List.contains_iff_mem, hall]
    refine and_congr_right fun hname => ?_
    constructor
    · rintro ⟨key, hmem⟩
      obtain ⟨r, hr⟩ := (hbound _).1 hmem
      have hkey : r.key = key := h.key_of_get? hname hr
      exact List.ne_nil_of_mem ((h.mem_scan_iff hname).2 (hkey ▸ hr))
    · intro hscan
      obtain ⟨r, hr⟩ := List.exists_mem_of_ne_nil _ hscan
      exact ⟨r.key, (hbound _).2 ⟨r, (h.mem_scan_iff hname).1 hr⟩⟩

/-! ## Snapshots of a store -/

/-- Scans that are filed one after another: a later scan of an entity replaces an earlier one. -/
theorem table_foldl_scan (s : Store) (name : String) (names : List String) (snap : Snapshot) :
    (names.foldl (fun snap entity => snap.withTable entity (.ofRecords (s.scan entity)))
      snap).table name =
      if name ∈ names then .ofRecords (s.scan name) else snap.table name := by
  induction names generalizing snap with
  | nil => rfl
  | cons other rest ih =>
    rw [List.foldl_cons, ih, Snapshot.table_withTable]
    by_cases hrest : name ∈ rest
    · rw [if_pos hrest, if_pos (List.mem_cons_of_mem other hrest)]
    · rw [if_neg hrest]
      by_cases heq : other = name
      · subst heq
        rw [if_pos rfl, if_pos List.mem_cons_self]
      · have hnot : name ∉ other :: rest := by
          rw [List.mem_cons, not_or]
          exact ⟨Ne.symm heq, hrest⟩
        rw [if_neg heq, if_neg hnot]

/-- The tables of a snapshot are the scans of the entities of its schema. -/
theorem table_snapshot (s : Store) (schema : Schema) (name : String) :
    (s.snapshot schema).table name =
      if name ∈ schema.names then .ofRecords (s.scan name) else ∅ := by
  have hempty : (Snapshot.empty schema.version).table name = ∅ := by
    unfold Snapshot.empty Snapshot.table
    simp
  unfold snapshot
  rw [table_foldl_scan, hempty]

/-- The tables of a snapshot are keyed. -/
theorem keyed_table_snapshot (s : Store) (schema : Schema) (name : String) :
    ((s.snapshot schema).table name).Keyed := by
  rw [table_snapshot]
  split
  · exact Table.keyed_ofRecords _
  · exact Table.keyed_empty

/-- An entity that the schema does not have has no table in the snapshot. -/
theorem table_snapshot_of_absent (s : Store) {schema : Schema} {name : String}
    (h : schema.hasEntity name = false) : (s.snapshot schema).table name = ∅ := by
  rw [table_snapshot, if_neg]
  rw [Schema.mem_names_iff]
  exact Bool.eq_false_iff.1 h

/-- A snapshot of a filed store holds under each key of an entity what the store holds there. -/
theorem Filed.getElem?_table_snapshot {s : Store} (h : s.Filed) {schema : Schema} {name : String}
    (hname : NulFree name) (hhas : schema.hasEntity name = true) (key : Key) :
    ((s.snapshot schema).table name)[key]? = s.get? name key := by
  rw [table_snapshot, if_pos (Schema.mem_names_iff.2 hhas)]
  ext r
  rw [Table.getElem?_ofRecords_iff (h.nodup_keys_scan hname), h.mem_scan_iff hname]
  constructor
  · rintro ⟨hr, rfl⟩
    exact hr
  · intro hr
    have hkey := h.key_of_get? hname hr
    rw [hkey]
    exact ⟨hr, rfl⟩

/-! ## Changes of single records -/

/-- Storing a record changes what its own key holds, and nothing else. -/
theorem get?_putRecord (s : Store) {entity other : String} (hname : NulFree entity)
    (hother : NulFree other) (r : Record) (key : Key) :
    (s.putRecord entity r).get? other key =
      if entity = other ∧ r.key = key then some r else s.get? other key := by
  unfold putRecord get?
  rw [getElem?_insert_eq_ite]
  by_cases heq : entity = other ∧ r.key = key
  · obtain ⟨rfl, rfl⟩ := heq
    rw [if_pos rfl, if_pos ⟨rfl, rfl⟩]
  · rw [if_neg heq, if_neg]
    exact fun hbytes => heq (StorageKey.encode_injective hname hother hbytes)

/-- Removing a record empties its own key, and nothing else. -/
theorem get?_deleteRecord (s : Store) {entity other : String} (hname : NulFree entity)
    (hother : NulFree other) (key key' : Key) :
    (s.deleteRecord entity key).get? other key' =
      if entity = other ∧ key = key' then none else s.get? other key' := by
  unfold deleteRecord get?
  rw [getElem?_erase_eq_ite]
  by_cases heq : entity = other ∧ key = key'
  · obtain ⟨rfl, rfl⟩ := heq
    rw [if_pos rfl, if_pos ⟨rfl, rfl⟩]
  · rw [if_neg heq, if_neg]
    exact fun hbytes => heq (StorageKey.encode_injective hname hother hbytes)

/-- What a store holds once a record was stored is that record, or was there before. -/
theorem records_putRecord_cases {s : Store} {entity : String} {r r' : Record} {bytes : Bytes}
    (h : (s.putRecord entity r).records[bytes]? = some r') :
    (bytes = StorageKey.encode entity r.key ∧ r' = r) ∨ s.records[bytes]? = some r' := by
  unfold putRecord at h
  rw [getElem?_insert_eq_ite] at h
  split at h
  · next heq =>
    cases h
    exact .inl ⟨heq.symm, rfl⟩
  · exact .inr h

/-- Storing a record keeps a store filed. -/
theorem Filed.putRecord {s : Store} (h : s.Filed) {entity : String} (hname : NulFree entity)
    (r : Record) : (s.putRecord entity r).Filed := by
  intro bytes r' hr'
  rcases records_putRecord_cases hr' with ⟨rfl, rfl⟩ | hold
  · exact ⟨entity, hname, rfl⟩
  · exact h bytes r' hold

/-- Removing a record keeps a store filed. -/
theorem Filed.deleteRecord {s : Store} (h : s.Filed) (entity : String) (key : Key) :
    (s.deleteRecord entity key).Filed := by
  intro bytes r hr
  unfold Store.deleteRecord at hr
  rw [getElem?_erase_eq_ite] at hr
  split at hr
  · cases hr
  · exact h bytes r hr

end Store

/-! ## Inserted records -/

namespace Store

/-- What is read back as the schema is the live one. -/
theorem schema?_of_readSchema {s : Store} {live? : Option Schema}
    (h : s.readSchema = .ok live?) : s.schema? = live? := by
  unfold readSchema at h
  split at h
  · next hnone =>
    cases h
    exact hnone
  · next hlive =>
    split at h
    · cases h
    · cases h
      exact hlive

/-- A record whose key is final is refused, or stored with its defaults filled. -/
theorem insertFilled_cases (s : Store) (name : String) (e : Entity) (r : Record) :
    (∃ error, s.insertFilled name e r = (.error error, s)) ∨
      (e.issues (e.fillDefaults r) = [] ∧ s.get? name r.key = none ∧
        s.insertFilled name e r = (.ok r.key, s.putRecord name (e.fillDefaults r))) := by
  unfold insertFilled
  dsimp only
  rw [Entity.key_fillDefaults]
  cases hissues : e.issues (e.fillDefaults r) with
  | cons issue rest => exact .inl ⟨_, rfl⟩
  | nil =>
    dsimp only
    cases hget : s.get? name r.key with
    | some taken => exact .inl ⟨_, rfl⟩
    | none => exact .inr ⟨rfl, rfl, rfl⟩

/-- What an insert does: it refuses the record and may have drawn a row number for it, or it stores
the record under a free key, with the defaults of its entity filled. The key is the record's own or,
for an entity without a primary key, the row number that was drawn. -/
theorem insert_cases (s : Store) (name : String) (r : Record) :
    (∃ error rows, s.insert name r = (.error error, { s with rows })) ∨
      ∃ schema e key rows, s.readSchema = .ok (some schema) ∧ schema.entity? name = some e ∧
        (e.isKeyed = true ∧ key = r.key ∧ rows = s.rows ∨
          e.isKeyed = false ∧ ∃ n, s.rows.draw? = some (n, rows) ∧ key = .row n) ∧
        e.issues (e.fillDefaults (r.withKey key)) = [] ∧ s.get? name key = none ∧
        s.insert name r =
          (.ok key, Store.putRecord { s with rows } name (e.fillDefaults (r.withKey key))) := by
  unfold insert
  cases hread : s.readSchema with
  | error error => exact .inl ⟨error, s.rows, rfl⟩
  | ok live? =>
  cases live? with
  | none => exact .inl ⟨_, s.rows, rfl⟩
  | some schema =>
  dsimp only
  cases he : schema.entity? name with
  | none => exact .inl ⟨_, s.rows, rfl⟩
  | some e =>
  dsimp only
  cases hkeyed : e.isKeyed with
  | true =>
    rw [if_pos rfl]
    rcases s.insertFilled_cases name e r with ⟨error, hinsert⟩ | ⟨hissues, hfree, hinsert⟩
    · exact .inl ⟨error, s.rows, hinsert⟩
    · exact .inr ⟨schema, e, r.key, s.rows, rfl, he, .inl ⟨hkeyed, rfl, rfl⟩, hissues, hfree,
        hinsert⟩
  | false =>
    rw [if_neg Bool.false_ne_true]
    unfold drawRow
    cases hdraw : s.rows.draw? with
    | none => exact .inl ⟨_, s.rows, rfl⟩
    | some drawn =>
      obtain ⟨n, rows⟩ := drawn
      dsimp only
      rcases insertFilled_cases { s with rows } name e (r.withKey (.row n)) with
        ⟨error, hinsert⟩ | ⟨hissues, hfree, hinsert⟩
      · exact .inl ⟨error, rows, hinsert⟩
      · exact .inr ⟨schema, e, .row n, rows, rfl, he, .inr ⟨hkeyed, n, rfl, rfl⟩, hissues, hfree,
          hinsert⟩

/-- An insert changes records and row numbers, and nothing else. -/
theorem insert_eq (s : Store) (name : String) (r : Record) :
    ∃ records rows, (s.insert name r).2 = { s with records, rows } := by
  rcases s.insert_cases name r with ⟨_, rows, h⟩ | ⟨_, _, _, rows, -, -, -, -, -, h⟩
  · exact ⟨s.records, rows, by rw [h]⟩
  · exact ⟨_, rows, by rw [h]; rfl⟩

end Store

/-! ## Writes one after the other -/

namespace Write

/-- The entity and key that a write decides, if it writes a record. -/
def place? : Write → Option (String × Key)
  | put entity r => some (entity, r.key)
  | delete entity key => some (entity, key)
  | setPreference .. | deletePreference _ => none

/-- The record that a write leaves at its place. -/
def record? : Write → Option Record
  | put _ r => some r
  | _ => none

/-- A write decides what its place holds, and leaves every other place alone. -/
theorem get?_apply (w : Write) (s : Store) {entity : String} (hname : NulFree entity)
    (hplaces : ∀ p, w.place? = some p → NulFree p.1) (key : Key) :
    (w.apply s).get? entity key =
      if w.place? = some (entity, key) then w.record? else s.get? entity key := by
  cases w with
  | put other r =>
    have hother : NulFree other := hplaces _ rfl
    unfold apply place? record?
    dsimp only
    rw [Store.get?_putRecord s hother hname]
    simp only [Option.some.injEq, Prod.mk.injEq]
  | delete other key' =>
    have hother : NulFree other := hplaces _ rfl
    unfold apply place? record?
    dsimp only
    rw [Store.get?_deleteRecord s hother hname]
    simp only [Option.some.injEq, Prod.mk.injEq]
  | setPreference | deletePreference => rfl

/-- A write keeps a store filed. -/
theorem filed_apply (w : Write) {s : Store} (h : s.Filed)
    (hplaces : ∀ p, w.place? = some p → NulFree p.1) : (w.apply s).Filed := by
  cases w with
  | put other r => exact h.putRecord (hplaces _ rfl) r
  | delete other key => exact h.deleteRecord other key
  | setPreference | deletePreference => exact h

end Write

namespace Store

variable {writes : List Write}

/-- Writes keep a store filed. -/
theorem filed_applyWrites {s : Store} (h : s.Filed)
    (hplaces : ∀ w ∈ writes, ∀ p, w.place? = some p → NulFree p.1) :
    (s.applyWrites writes).Filed := by
  unfold applyWrites
  induction writes generalizing s with
  | nil => exact h
  | cons w rest ih =>
    rw [List.foldl_cons]
    exact ih (w.filed_apply h (hplaces w List.mem_cons_self))
      fun w' hw' => hplaces w' (List.mem_cons_of_mem w hw')

/-- If all writes to a place leave the same there, and the place held it already or is written to,
that is what it holds afterwards. -/
theorem get?_applyWrites {s : Store} {entity : String} (hname : NulFree entity) {key : Key}
    (hplaces : ∀ w ∈ writes, ∀ p, w.place? = some p → NulFree p.1) {found : Option Record}
    (hagree : ∀ w ∈ writes, w.place? = some (entity, key) → w.record? = found)
    (hreach : s.get? entity key = found ∨ ∃ w ∈ writes, w.place? = some (entity, key)) :
    (s.applyWrites writes).get? entity key = found :=
  read_foldl (fun s => s.get? entity key)
    (fun s w hw => w.get?_apply s hname (hplaces w hw) key) hagree hreach

/-- Writes change records and preferences, and nothing else. -/
theorem applyWrites_eq (s : Store) (writes : List Write) :
    s.applyWrites writes =
      { s with
        records := (s.applyWrites writes).records
        preferences := (s.applyWrites writes).preferences } := by
  unfold applyWrites
  induction writes generalizing s with
  | nil => rfl
  | cons w rest ih =>
    rw [List.foldl_cons, ih]
    cases w <;> rfl

/-- The stamp and the journal play no part in writes. -/
theorem applyWrites_withHeader (s : Store) (stamp : Option VersionEntry)
    (entry : Option JournalEntry) (writes : List Write) :
    Store.applyWrites { s with version? := stamp, journal? := entry } writes =
      { s.applyWrites writes with version? := stamp, journal? := entry } := by
  unfold applyWrites
  induction writes generalizing s with
  | nil => rfl
  | cons w rest ih =>
    have hw : w.apply { s with version? := stamp, journal? := entry } =
        { w.apply s with version? := stamp, journal? := entry } := by
      cases w <;> rfl
    rw [List.foldl_cons, List.foldl_cons, hw, ih]

end Store

end Strata
