import Strata.Snapshot
import Mathlib.Data.List.Nodup

/-!
# Tables as maps

What tables and snapshots hold, key by key. What a fold leaves at one place is decided by the
elements that write there (`read_foldl`). A table is `Keyed` when every record is under its own
key; the table of a list of records is (`Table.keyed_ofRecords`), and if the records have distinct
keys it holds exactly those records (`Table.getElem?_ofRecords_iff`).
-/

namespace Strata

section Values

variable {α β : Type} {cmp : α → α → Ordering} [Std.TransCmp cmp]

/-- The values of a map are those of its entries, in order. -/
theorem values_eq_map_toList (t : Std.ExtTreeMap α β cmp) : t.values = t.toList.map (·.2) := by
  have h : t.values = t.foldr (fun _ v l => v :: l) [] := rfl
  rw [h, Std.ExtTreeMap.foldr_eq_foldr_toList]
  induction t.toList with
  | nil => rfl
  | cons p rest ih => rw [List.foldr_cons, List.map_cons, ih]

/-- A value of a map is one that some key is bound to. -/
theorem mem_values_iff [Std.LawfulEqCmp cmp] {t : Std.ExtTreeMap α β cmp} {v : β} :
    v ∈ t.values ↔ ∃ k : α, t[k]? = some v := by
  rw [values_eq_map_toList, List.mem_map]
  constructor
  · rintro ⟨⟨k, v⟩, hmem, rfl⟩
    exact ⟨k, Std.ExtTreeMap.mem_toList_iff_getElem?_eq_some.1 hmem⟩
  · rintro ⟨k, hk⟩
    exact ⟨(k, v), Std.ExtTreeMap.mem_toList_iff_getElem?_eq_some.2 hk, rfl⟩

/-- A key of a map is one that is bound. -/
theorem contains_eq_isSome {t : Std.ExtTreeMap α β cmp} {k : α} :
    t.contains k = t[k]?.isSome :=
  Std.ExtTreeMap.isSome_getElem?_eq_contains.symm

section

variable [Std.LawfulEqCmp cmp] [DecidableEq α]

/-- Binding a key changes what that key is bound to, and nothing else. -/
theorem getElem?_insert_eq_ite (t : Std.ExtTreeMap α β cmp) (k k' : α) (v : β) :
    (t.insert k v)[k']? = if k = k' then some v else t[k']? := by
  rw [Std.ExtTreeMap.getElem?_insert]
  simp only [Std.LawfulEqCmp.compare_eq_iff_eq]

/-- Unbinding a key changes what that key is bound to, and nothing else. -/
theorem getElem?_erase_eq_ite (t : Std.ExtTreeMap α β cmp) (k k' : α) :
    (t.erase k)[k']? = if k = k' then none else t[k']? := by
  rw [Std.ExtTreeMap.getElem?_erase]
  simp only [Std.LawfulEqCmp.compare_eq_iff_eq]

end

end Values

section Folds

variable {σ ε ρ : Type}

/-- What a fold leaves at one place of a state, where `read` is what the state holds there and each
element writes the place or leaves it alone: if all that write it leave the same, and the place held
that already or is written, that is what it holds afterwards. -/
theorem read_foldl (read : σ → ρ) {f : σ → ε → σ} {writes : ε → Prop} [DecidablePred writes]
    {left : ε → ρ} {xs : List ε}
    (hstep : ∀ s, ∀ x ∈ xs, read (f s x) = if writes x then left x else read s) {found : ρ}
    (hagree : ∀ x ∈ xs, writes x → left x = found) {s : σ}
    (hreach : read s = found ∨ ∃ x ∈ xs, writes x) : read (xs.foldl f s) = found := by
  induction xs generalizing s with
  | nil =>
    rcases hreach with h | ⟨_, hmem, _⟩
    · exact h
    · cases hmem
  | cons x rest ih =>
    -- Once the place holds `found`, no later element that writes it changes that.
    rw [List.foldl_cons]
    refine ih (fun s y hy => hstep s y (List.mem_cons_of_mem x hy))
      (fun y hy => hagree y (List.mem_cons_of_mem x hy)) ?_
    rw [hstep s x List.mem_cons_self]
    by_cases hwrites : writes x
    · rw [if_pos hwrites]
      exact .inl (hagree x List.mem_cons_self hwrites)
    · rw [if_neg hwrites]
      rcases hreach with h | ⟨y, hmem, hy⟩
      · exact .inl h
      · rcases List.mem_cons.1 hmem with rfl | hmem
        · exact absurd hy hwrites
        · exact .inr ⟨y, hmem, hy⟩

end Folds

namespace Table

/-- Every record of a table is under its own key. -/
def Keyed (t : Table) : Prop := ∀ (key : Key) (r : Record), t[key]? = some r → r.key = key

theorem keyed_empty : Keyed ∅ := by
  intro key r h
  simp at h

/-- A table with a record put under its own key. -/
theorem getElem?_insert (t : Table) (r : Record) (key : Key) :
    (t.insert r.key r)[key]? = if r.key = key then some r else t[key]? :=
  getElem?_insert_eq_ite t r.key key r

/-- Putting a record under its own key keeps a table keyed. -/
theorem Keyed.insert {t : Table} (h : Keyed t) (r : Record) : Keyed (t.insert r.key r) := by
  intro key r' hr'
  rw [getElem?_insert] at hr'
  split at hr'
  · next heq =>
    cases hr'
    exact heq
  · exact h key r' hr'

/-- Changing records without their keys keeps a table keyed. -/
theorem Keyed.map {t : Table} (h : Keyed t) {f : Key → Record → Record}
    (hf : ∀ key r, (f key r).key = r.key) : Keyed (t.map f) := by
  intro key r hr
  rw [Std.ExtTreeMap.getElem?_map] at hr
  obtain ⟨r', hr', rfl⟩ := Option.map_eq_some_iff.1 hr
  rw [hf]
  exact h key r' hr'

/-- The records of a keyed table are found under their keys. -/
theorem Keyed.mem_values_iff {t : Table} (h : Keyed t) {r : Record} :
    r ∈ t.values ↔ t[r.key]? = some r := by
  rw [Strata.mem_values_iff]
  constructor
  · rintro ⟨key, hkey⟩
    rw [h key r hkey]
    exact hkey
  · intro hr
    exact ⟨r.key, hr⟩

/-- Adding a list of records to a table keeps it keyed. -/
theorem keyed_foldl {t : Table} (h : Keyed t) (records : List Record) :
    Keyed (records.foldl (fun t r => t.insert r.key r) t) := by
  induction records generalizing t with
  | nil => exact h
  | cons r rest ih => exact ih (h.insert r)

/-- The table of a list of records is keyed. -/
theorem keyed_ofRecords (records : List Record) : Keyed (ofRecords records) :=
  keyed_foldl keyed_empty records

/-- What a table holds once records have been added is one of them, or was there before. -/
theorem mem_or_getElem?_of_foldl {records : List Record} {t : Table} {key : Key} {r : Record}
    (h : (records.foldl (fun t r => t.insert r.key r) t)[key]? = some r) :
    r ∈ records ∨ t[key]? = some r := by
  induction records generalizing t with
  | nil => exact .inr h
  | cons r' rest ih =>
    rw [List.foldl_cons] at h
    rcases ih h with hmem | hr
    · exact .inl (List.mem_cons_of_mem r' hmem)
    · rw [getElem?_insert] at hr
      split at hr
      · cases hr
        exact .inl List.mem_cons_self
      · exact .inr hr

/-- A record of the table of a list is one of the list. -/
theorem mem_of_getElem?_ofRecords {records : List Record} {key : Key} {r : Record}
    (h : (ofRecords records)[key]? = some r) : r ∈ records := by
  refine (mem_or_getElem?_of_foldl h).resolve_right fun hempty => ?_
  simp at hempty

/-- What a table holds once records with distinct keys have been added. -/
theorem getElem?_foldl_iff {records : List Record} (hkeys : (records.map (·.key)).Nodup)
    {t : Table} {key : Key} {r : Record} :
    (records.foldl (fun t r => t.insert r.key r) t)[key]? = some r ↔
      (r ∈ records ∧ r.key = key) ∨ (key ∉ records.map (·.key) ∧ t[key]? = some r) := by
  induction records generalizing t with
  | nil => simp
  | cons r' rest ih =>
    rw [List.map_cons, List.nodup_cons] at hkeys
    rw [List.foldl_cons, ih hkeys.2, getElem?_insert]
    by_cases heq : r'.key = key
    · subst heq
      rw [if_pos rfl, List.mem_cons, Option.some_inj]
      constructor
      · rintro (⟨hmem, hkey⟩ | ⟨-, rfl⟩)
        · exact .inl ⟨.inr hmem, hkey⟩
        · exact .inl ⟨.inl rfl, rfl⟩
      · rintro (⟨rfl | hmem, hkey⟩ | ⟨hnot, -⟩)
        · exact .inr ⟨hkeys.1, rfl⟩
        · exact .inl ⟨hmem, hkey⟩
        · exact absurd (List.mem_cons_self) hnot
    · have hne : key ∉ (r' :: rest).map (·.key) ↔ key ∉ rest.map (·.key) := by
        rw [List.map_cons, List.mem_cons, not_or, and_iff_right (Ne.symm heq)]
      rw [hne, if_neg heq, List.mem_cons]
      constructor
      · rintro (⟨hmem, hkey⟩ | h)
        · exact .inl ⟨.inr hmem, hkey⟩
        · exact .inr h
      · rintro (⟨rfl | hmem, hkey⟩ | h)
        · exact absurd hkey heq
        · exact .inl ⟨hmem, hkey⟩
        · exact .inr h

/-- The table of records with distinct keys holds each of them under its key, and nothing else. -/
theorem getElem?_ofRecords_iff {records : List Record} (hkeys : (records.map (·.key)).Nodup)
    {key : Key} {r : Record} :
    (ofRecords records)[key]? = some r ↔ r ∈ records ∧ r.key = key := by
  unfold ofRecords
  rw [getElem?_foldl_iff hkeys]
  simp

/-- The keys of the records of a keyed table are distinct. -/
theorem Keyed.nodup_keys_values {t : Table} (h : Keyed t) : (t.values.map (·.key)).Nodup := by
  have hkeys : t.values.map (·.key) = t.keys := by
    rw [values_eq_map_toList, List.map_map, ← Std.ExtTreeMap.map_fst_toList_eq_keys]
    refine List.map_congr_left fun p hp => ?_
    exact h p.1 p.2 (Std.ExtTreeMap.mem_toList_iff_getElem?_eq_some.1 hp)
  rw [hkeys]
  exact Std.ExtTreeMap.nodup_keys

/-- The records of a keyed table are listed in the order of their keys. -/
theorem Keyed.sorted_values {t : Table} (h : Keyed t) :
    t.values.Pairwise fun a b => compare a.key b.key = .lt := by
  rw [values_eq_map_toList, List.pairwise_map]
  refine Std.ExtTreeMap.ordered_keys_toList.imp_of_mem fun {a b} ha hb hlt => ?_
  rw [h a.1 a.2 (Std.ExtTreeMap.mem_toList_iff_getElem?_eq_some.1 ha),
    h b.1 b.2 (Std.ExtTreeMap.mem_toList_iff_getElem?_eq_some.1 hb)]
  exact hlt

/-- The records of a keyed table, changed without their keys, are those of the changed table. -/
theorem Keyed.ofRecords_map {t : Table} (h : Keyed t) {f : Record → Record}
    (hf : ∀ r ∈ t.values, (f r).key = r.key) :
    ofRecords (t.values.map f) = t.map fun _ r => f r := by
  have hkeys : (t.values.map f).map (·.key) = t.values.map (·.key) := by
    rw [List.map_map]
    exact List.map_congr_left hf
  refine Std.ExtTreeMap.ext_getElem? fun key => Option.ext fun r => ?_
  rw [getElem?_ofRecords_iff (hkeys ▸ h.nodup_keys_values), Std.ExtTreeMap.getElem?_map,
    Option.map_eq_some_iff]
  constructor
  · rintro ⟨hmem, rfl⟩
    obtain ⟨r, hr, rfl⟩ := List.mem_map.1 hmem
    rw [hf r hr]
    exact ⟨r, h.mem_values_iff.1 hr, rfl⟩
  · rintro ⟨r, hr, rfl⟩
    have hmem := Strata.mem_values_iff.2 ⟨key, hr⟩
    exact ⟨List.mem_map_of_mem hmem, (hf r hmem).trans (h key r hr)⟩

end Table

namespace Snapshot

/-- A snapshot with a table put in place of another. -/
theorem table_withTable (s : Snapshot) (name other : String) (t : Table) :
    (s.withTable name t).table other = if name = other then t else s.table other := by
  unfold table withTable
  rw [getElem?_insert_eq_ite]
  split <;> rfl

/-- Every record of a snapshot is under its own key. -/
def Keyed (s : Snapshot) : Prop := ∀ name, (s.table name).Keyed

/-- A snapshot without entities is keyed. -/
theorem keyed_empty (version : Nat) : (empty version).Keyed := by
  intro name
  unfold empty table
  rw [Std.ExtTreeMap.getElem?_empty]
  exact Table.keyed_empty

/-- Adding a record to an entity keeps a snapshot keyed. -/
theorem Keyed.insert {s : Snapshot} (h : s.Keyed) (entity : String) (r : Record) :
    (s.insert entity r).Keyed := by
  intro name
  have hinsert : s.insert entity r = s.withTable entity ((s.table entity).insert r.key r) := rfl
  rw [hinsert, table_withTable]
  split
  · exact (h entity).insert r
  · exact h name

/-- The records of an entity of a keyed snapshot are listed in the order of their keys. -/
theorem Keyed.sorted_records {s : Snapshot} (h : s.Keyed) (entity : String) :
    (s.records entity).Pairwise fun a b => compare a.key b.key = .lt :=
  (h entity).sorted_values

end Snapshot

end Strata
