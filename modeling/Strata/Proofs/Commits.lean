import Strata.Proofs.Plans

/-!
# What a plan leaves in a store

The writes of a plan delete the keys that an emptied table does not use again and put every record
of every touched table. So after the commit a touched table is the one of the draft
(`Step.Covers.get?_of_touched`), and a table that is not touched is as before
(`Step.Covers.get?_of_not_touched`).
-/

namespace Strata

variable {s : Store} {step : Step} {live next : Schema} {d : Draft}

namespace Draft

/-- A deletion is one of an old record of an emptied table whose key is not used again. -/
theorem mem_deletions_iff {w : Write} : w ∈ d.deletions ↔
    ∃ name key, name ∈ d.cleared ∧ (d.snapshot.table name).contains key = true ∧
      (d.table name).contains key = false ∧ w = .delete name key := by
  unfold deletions
  simp only [List.mem_flatMap, List.mem_map, List.mem_filter, Std.ExtTreeSet.mem_toList,
    Snapshot.keys, Std.ExtTreeMap.mem_keys, Std.ExtTreeMap.mem_iff_contains, Bool.not_eq_true']
  constructor
  · rintro ⟨name, hname, key, ⟨hold, hfree⟩, rfl⟩
    exact ⟨name, key, hname, hold, hfree, rfl⟩
  · rintro ⟨name, key, hname, hold, hfree, rfl⟩
    exact ⟨name, hname, key, ⟨hold, hfree⟩, rfl⟩

/-- A put is one of a record of a touched table. -/
theorem mem_puts_iff {w : Write} : w ∈ d.puts ↔
    ∃ name r, d.Touched name ∧ r ∈ (d.table name).values ∧ w = .put name r := by
  unfold puts
  simp only [List.mem_flatMap, List.mem_map, Prod.exists]
  constructor
  · rintro ⟨name, t, hmem, r, hr, rfl⟩
    rw [Std.ExtTreeMap.mem_toList_iff_getElem?_eq_some] at hmem
    have htable : d.table name = t := by
      unfold table
      rw [hmem]
      rfl
    refine ⟨name, r, ?_, htable ▸ hr, rfl⟩
    unfold Touched
    rw [contains_eq_isSome, hmem]
    rfl
  · rintro ⟨name, r, htouched, hr, rfl⟩
    exact ⟨name, d.table name,
      Std.ExtTreeMap.mem_toList_iff_getElem?_eq_some.2 (getElem?_tables htouched), r, hr, rfl⟩

end Draft

/-- A preference write decides no record. -/
theorem Step.place?_preferenceWrite (edit : String × Option Value) :
    (preferenceWrite edit).place? = none := by
  obtain ⟨name, value⟩ := edit
  cases value <;> rfl

namespace Step

variable {edits : Std.ExtTreeMap String (Option Value)}

/-- The writes of a plan that decide a record are the deletions and the puts. -/
theorem mem_writes_of_place? {w : Write} (hw : w ∈ (transactionOf step next d edits).writes)
    {p : String × Key} (hp : w.place? = some p) : w ∈ d.deletions ∨ w ∈ d.puts := by
  unfold transactionOf at hw
  rcases List.mem_append.1 hw with hw | hw
  · exact List.mem_append.1 hw
  · obtain ⟨edit, -, rfl⟩ := List.mem_map.1 hw
    rw [place?_preferenceWrite] at hp
    cases hp

/-- Every write of a plan is to a table that it touches. -/
theorem Covers.touched_of_place? (h : Covers step next (s.snapshot live) d) {w : Write}
    (hw : w ∈ (transactionOf step next d edits).writes) {p : String × Key}
    (hp : w.place? = some p) : d.Touched p.1 := by
  rcases mem_writes_of_place? hw hp with hw | hw
  · obtain ⟨name, key, hname, -, -, rfl⟩ := Draft.mem_deletions_iff.1 hw
    cases hp
    exact h.clears name ((h.cleared name).1 hname)
  · obtain ⟨name, r, htouched, -, rfl⟩ := Draft.mem_puts_iff.1 hw
    cases hp
    exact htouched

/-- The names that a plan writes to hold no null character if those of the next schema do not. -/
theorem Covers.nulFree_of_place? (h : Covers step next (s.snapshot live) d)
    (hnext : ∀ name, next.hasEntity name = true → NulFree name) :
    ∀ w ∈ (transactionOf step next d edits).writes, ∀ p, w.place? = some p → NulFree p.1 :=
  fun _ hw p hp => hnext p.1 (h.known p.1 (h.touched_of_place? hw hp))

/-- The commit of a plan keeps a store filed. -/
theorem Covers.filed (h : Covers step next (s.snapshot live) d)
    (hnext : ∀ name, next.hasEntity name = true → NulFree name) (hfiled : s.Filed) :
    (s.applyWrites (transactionOf step next d edits).writes).Filed :=
  Store.filed_applyWrites hfiled (h.nulFree_of_place? hnext)

/-- The commit of a plan leaves a table alone that it does not touch. -/
theorem Covers.get?_of_not_touched (h : Covers step next (s.snapshot live) d)
    (hnext : ∀ name, next.hasEntity name = true → NulFree name) {name : String}
    (hname : NulFree name) (hnot : ¬d.Touched name) (key : Key) :
    (s.applyWrites (transactionOf step next d edits).writes).get? name key = s.get? name key := by
  refine Store.get?_applyWrites hname (h.nulFree_of_place? hnext) (fun w hw hp => ?_) (.inl rfl)
  exact absurd (h.touched_of_place? hw hp) hnot

/-- The commit of a plan leaves in a touched table what the draft holds. -/
theorem Covers.get?_of_touched (h : Covers step next (s.snapshot live) d)
    (hnext : ∀ name, next.hasEntity name = true → NulFree name) (hfiled : s.Filed)
    (hlive : ∀ name key r, s.get? name key = some r → NulFree name → live.hasEntity name = true)
    {name : String} (htouched : d.Touched name) (key : Key) :
    (s.applyWrites (transactionOf step next d edits).writes).get? name key =
      (d.table name)[key]? := by
  have hname : NulFree name := hnext name (h.known name htouched)
  refine Store.get?_applyWrites hname (h.nulFree_of_place? hnext) (fun w hw hp => ?_) ?_
  · -- A deletion is of a key that the draft leaves free, and a put is of what the draft holds.
    rcases mem_writes_of_place? hw hp with hw | hw
    · obtain ⟨_, _, -, -, hfree, rfl⟩ := Draft.mem_deletions_iff.1 hw
      cases hp
      rw [contains_eq_isSome, Option.isSome_eq_false_iff, Option.isNone_iff_eq_none] at hfree
      exact hfree.symm
    · obtain ⟨_, r, -, hr, rfl⟩ := Draft.mem_puts_iff.1 hw
      cases hp
      exact ((h.keyed name).mem_values_iff.1 hr).symm
  · cases hfound : (d.table name)[key]? with
    | some r =>
      -- The record is put.
      refine .inr ⟨.put name r, ?_, ?_⟩
      · unfold transactionOf
        refine List.mem_append_left _ (List.mem_append_right _ (Draft.mem_puts_iff.2 ?_))
        exact ⟨name, r, htouched, mem_values_iff.2 ⟨key, hfound⟩, rfl⟩
      · rw [← h.keyed name key r hfound]
        rfl
    | none =>
      cases hold : s.get? name key with
      | none => exact .inl rfl
      | some r =>
        -- An old record is only lost with a table that is emptied, and is deleted then.
        have htable : ((s.snapshot live).table name).contains key = true := by
          rw [contains_eq_isSome,
            hfiled.getElem?_table_snapshot hname (hlive name key r hold hname),
            hold]
          rfl
        have hfree : (d.table name).contains key = false := by
          rw [contains_eq_isSome, hfound]
          rfl
        have hclear : name ∈ step.clears := by
          refine Decidable.of_not_not fun hnot => ?_
          rw [h.kept name hnot key htable] at hfree
          cases hfree
        refine .inr ⟨.delete name key, ?_, rfl⟩
        unfold transactionOf
        refine List.mem_append_left _ (List.mem_append_left _ (Draft.mem_deletions_iff.2 ?_))
        refine ⟨name, key, (h.cleared name).2 hclear, ?_, hfree, rfl⟩
        rw [h.snapshot]
        exact htable

end Step

end Strata
