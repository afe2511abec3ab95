import Strata.Proofs.KeyOrder
import Strata.Proofs.StoredRecords

/-!
# Stores as maps of records

What a store holds after any history of commits and inserts is the map from entities and keys to
records that the history leaves behind: the last write to a place decides (`Write.last?`). Lookups,
scans, counts and the stored entities all read this map (`Store.Refines`), and a scan lists its
records in the order of their keys, because that is the order of the bytes that they are stored
under (`StorageKey.compare_encode`).

A history is followed write by write (`Store.get?_applyWrites_eq_last?`), then command by command
(`Store.Written.get?_eq_last?`), and what the map says of scans is said of any filed store.
-/

namespace Strata

namespace Write

variable {history : List Write} {entity : String} {key : Key} {r : Record}

/-- What the last write to the place of an entity and a key leaves there; nothing, if there is no
such write or it removes the record. -/
def last? (history : List Write) (entity : String) (key : Key) : Option Record :=
  (history.reverse.find? fun w => w.place? = some (entity, key)).bind record?

/-- One more write decides its own place and no other. -/
theorem last?_concat (w : Write) :
    last? (history ++ [w]) entity key =
      if w.place? = some (entity, key) then w.record? else last? history entity key := by
  unfold last?
  rw [List.reverse_append, List.reverse_singleton, List.singleton_append, List.find?_cons]
  by_cases hplace : w.place? = some (entity, key)
  · rw [if_pos hplace, decide_eq_true hplace]
    rfl
  · rw [if_neg hplace, decide_eq_false hplace]

/-- A record that is left at a place was put there, under its own key. -/
theorem put_mem_of_last? (h : last? history entity key = some r) :
    put entity r ∈ history ∧ r.key = key := by
  obtain ⟨w, hfind, hrecord⟩ := Option.bind_eq_some_iff.1 h
  have hmem : w ∈ history := List.mem_reverse.1 (List.mem_of_find?_eq_some hfind)
  have hfound := List.find?_some hfind
  have hplace : w.place? = some (entity, key) := of_decide_eq_true hfound
  cases w with
  | put other r' =>
    cases hrecord
    cases hplace
    exact ⟨hmem, rfl⟩
  | delete | setPreference | deletePreference => cases hrecord

end Write

namespace Store

variable {s : Store} {history writes : List Write} {entity : String}

/-- Writes to a store of which a history tells make it one of which the longer history tells. -/
theorem get?_applyWrites_eq_last? (hname : NulFree entity) {key : Key}
    (hplaces : ∀ w ∈ writes, ∀ p, w.place? = some p → NulFree p.1)
    (h : s.get? entity key = Write.last? history entity key) :
    (s.applyWrites writes).get? entity key = Write.last? (history ++ writes) entity key := by
  unfold applyWrites
  induction writes generalizing s history with
  | nil =>
    rw [List.append_nil]
    exact h
  | cons w rest ih =>
    rw [List.foldl_cons, List.append_cons]
    refine ih (fun w' hw' => hplaces w' (List.mem_cons_of_mem w hw')) ?_
    rw [w.get?_apply s hname (hplaces w List.mem_cons_self), Write.last?_concat, h]

/-- The stores that an empty one becomes by committed transactions and accepted inserts, each with
the writes to records so far. Transactions and inserts use entity names without the null character;
anything else may happen in between that leaves the records alone. -/
inductive Written : List Write → Store → Prop
  /-- Nothing is written to the empty store. -/
  | empty : Written [] .empty
  /-- A transaction is committed. -/
  | commit {history : List Write} {s : Store} (t : Transaction)
      (hplaces : ∀ w ∈ t.writes, ∀ p, w.place? = some p → NulFree p.1) (h : Written history s) :
      Written (history ++ t.writes) (s.commit t)
  /-- A record is inserted. It is put under the key that the insert gives it, with the defaults of
  its entity filled. -/
  | insert {history : List Write} {s s' : Store} {name : String} {r : Record} {key : Key}
      {schema : Schema} {e : Entity} (hname : NulFree name) (hlive : s.schema? = some schema)
      (he : schema.entity? name = some e) (hinsert : s.insert name r = (.ok key, s'))
      (h : Written history s) :
      Written (history ++ [.put name (e.fillDefaults (r.withKey key))]) s'
  /-- The header, the schema, the journal, the preferences or the row numbers change. -/
  | other {history : List Write} {s s' : Store} (hrecords : s'.records = s.records)
      (h : Written history s) : Written history s'

theorem filed_empty : empty.Filed := by
  intro bytes r hr
  unfold empty at hr
  simp at hr

/-- What is read of records depends on the records only. -/
theorem filed_congr {s' : Store} (h : s'.records = s.records) (hs : s.Filed) : s'.Filed := by
  unfold Filed
  rw [h]
  exact hs

theorem get?_congr {s' : Store} (h : s'.records = s.records) (entity : String) (key : Key) :
    s'.get? entity key = s.get? entity key := by
  unfold get?
  rw [h]

/-- An accepted insert puts the record under the key that it gives it, with the defaults of its
entity filled. -/
theorem records_insert {s' : Store} {name : String} {r : Record} {key : Key} {schema : Schema}
    {e : Entity} (hlive : s.schema? = some schema) (he : schema.entity? name = some e)
    (hinsert : s.insert name r = (.ok key, s')) :
    s'.records = (s.putRecord name (e.fillDefaults (r.withKey key))).records := by
  rcases s.insert_cases name r with
    ⟨_, _, hrefused⟩ | ⟨schema', e', key', rows, hread, he', -, -, -, haccepted⟩
  · rw [hrefused] at hinsert
    cases hinsert
  · rw [haccepted] at hinsert
    have hsame := schema?_of_readSchema hread
    rw [hlive] at hsame
    cases hsame
    rw [he] at he'
    cases he'
    cases hinsert
    rfl

/-- Everything that is stored along a history is filed. -/
theorem Written.filed (h : Written history s) : s.Filed := by
  induction h with
  | empty => exact filed_empty
  | commit t hplaces _ ih => exact filed_applyWrites ih hplaces
  | insert hname hlive he hinsert _ ih =>
    exact filed_congr (records_insert hlive he hinsert) (ih.putRecord hname _)
  | other hrecords _ ih => exact filed_congr hrecords ih

/-- What is found under a key is what the last write there left. -/
theorem Written.get?_eq_last? (h : Written history s) (hname : NulFree entity) (key : Key) :
    s.get? entity key = Write.last? history entity key := by
  induction h with
  | empty =>
    unfold get? Store.empty
    simp [Write.last?]
  | commit t hplaces _ ih => exact get?_applyWrites_eq_last? hname hplaces ih
  | @insert _ s _ name r key' _ e hother hlive he hinsert _ ih =>
    let stored : Write := .put name (e.fillDefaults (r.withKey key'))
    have hplaces : ∀ p, stored.place? = some p → NulFree p.1 := by
      rintro p ⟨⟩
      exact hother
    calc _ = (stored.apply s).get? entity key :=
          get?_congr (records_insert hlive he hinsert) entity key
      _ = _ := by rw [stored.get?_apply s hname hplaces, Write.last?_concat, ih]
  | other hrecords _ ih => rw [get?_congr hrecords, ih]

/-- A scan of an entity lists its records in the order of their keys. -/
theorem Filed.sorted_scan (h : s.Filed) (hname : NulFree entity) :
    (s.scan entity).Pairwise fun a b => a.key.Before b.key := by
  have hbytes : (s.entries entity).Pairwise fun a b => compare a.1 b.1 = .lt :=
    Std.ExtTreeMap.ordered_keys_toList.sublist List.filter_sublist
  unfold scan
  rw [List.pairwise_map]
  refine hbytes.imp_of_mem fun {a b} ha hb hlt => ?_
  rw [((h.mem_entries_iff hname).1 ha).2, ((h.mem_entries_iff hname).1 hb).2,
    StorageKey.compare_encode] at hlt
  exact Key.compare_eq_lt_iff.1 hlt

/-- A store holds, for every entity name without the null character, the records that a map from
entities and keys to records gives. -/
structure Refines (s : Store) (contents : String → Key → Option Record) : Prop where
  /-- A lookup finds what the map has there. -/
  get : ∀ entity, NulFree entity → ∀ key, s.get? entity key = contents entity key
  /-- A scan lists the records that the map has for the entity, and no others. -/
  mem_scan : ∀ entity, NulFree entity → ∀ r,
    r ∈ s.scan entity ↔ ∃ key, contents entity key = some r
  /-- A scan lists each record once, in the order of the keys. -/
  sorted : ∀ entity, NulFree entity → (s.scan entity).Pairwise fun a b => a.key.Before b.key
  /-- A count is the length of a scan. -/
  count : ∀ entity, NulFree entity → s.count entity = (s.scan entity).length
  /-- The stored entities can be read, and are the entities that have records. -/
  stored : ∃ names, s.storedEntities = .ok names ∧
    ∀ name, name ∈ names ↔ NulFree name ∧ s.scan name ≠ []

/-- **A store is a map of records.** Whatever is committed and inserted, a store holds under each
entity and key what the last write there left, its scans list these records in the order of their
keys, and every record that a scan of an entity shows was put under that entity. -/
theorem refines_of_written (h : Written history s) :
    s.Refines (Write.last? history) ∧
      ∀ entity, NulFree entity → ∀ r ∈ s.scan entity, Write.put entity r ∈ history := by
  have hfiled := h.filed
  have hscan : ∀ entity, NulFree entity → ∀ r,
      r ∈ s.scan entity ↔ Write.last? history entity r.key = some r := by
    intro entity hname r
    rw [hfiled.mem_scan_iff hname, h.get?_eq_last? hname]
  refine ⟨⟨fun entity hname key => h.get?_eq_last? hname key, fun entity hname r => ?_,
    fun entity hname => hfiled.sorted_scan hname, fun entity _ => ?_,
    hfiled.exists_storedEntities⟩, fun entity hname r hr => ?_⟩
  · rw [hscan entity hname]
    constructor
    · exact fun hr => ⟨r.key, hr⟩
    · rintro ⟨key, hr⟩
      rw [(Write.put_mem_of_last? hr).2]
      exact hr
  · unfold scan
    rw [List.length_map]
    rfl
  · exact (Write.put_mem_of_last? ((hscan entity hname r).1 hr)).1

/-- Two entities, the name of one opening with the name of the other. A record of the shorter name
is removed again, and one of the longer name is inserted once there is a schema. -/
theorem refines_of_written_prefix :
    ∃ history s, Written history s ∧ s.Refines (Write.last? history) ∧
      s.get? "Per" (.int 1) = none ∧ s.get? "Per" (.int (-1)) = some (.ofKey (.int (-1))) ∧
      s.get? "Person" (.row 0) = some (.ofKey (.row 0)) ∧
      ∀ r ∈ s.scan "Per", Write.put "Per" r ∈ history := by
  let schema := Schema.ofList 0 [⟨"Person", []⟩]
  let writes : List Write := [.put "Per" (.ofKey (.int 1)), .put "Per" (.ofKey (.int (-1))),
    .delete "Per" (.int 1)]
  let t : Transaction := ⟨writes, some schema, none, none⟩
  obtain ⟨s, hinsert⟩ : ∃ s, (Store.empty.commit t).insert "Person" .keyless = (.ok (.row 0), s) :=
    ⟨_, rfl⟩
  have hcommit : Written writes (Store.empty.commit t) := .commit t (by decide) .empty
  have hwritten : Written (writes ++ [.put "Person" (.ofKey (.row 0))]) s :=
    .insert (e := ⟨"Person", []⟩) (r := .keyless) (by decide) rfl rfl hinsert hcommit
  obtain ⟨hrefines, hscan⟩ := refines_of_written hwritten
  have hper : NulFree "Per" := by decide
  have hperson : NulFree "Person" := by decide
  refine ⟨_, s, hwritten, hrefines, ?_, ?_, ?_, hscan "Per" hper⟩
  · exact (hrefines.get "Per" hper (.int 1)).trans rfl
  · exact (hrefines.get "Per" hper (.int (-1))).trans rfl
  · exact (hrefines.get "Person" hperson (.row 0)).trans rfl

end Store

end Strata
