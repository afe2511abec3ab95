import Strata.Proofs.Plans
import Mathlib.Data.List.Dedup

/-!
# The records that a step adds

Adding a record to a draft completes it (`Draft.Completed`) and puts it under a free key.
`Draft.Grows` says that a draft has become another one by adding a list of records: each is
completed, no two have one key, all keys were free, and nothing else has changed. Adding one list
after another is adding both (`Grows.trans`), so the emitted records that are kept
(`grows_emitAll`) and the inserted ones (`grows_addAll`) come out as lists.
-/

namespace Strata

/-- A drawn number is the next one, and the counter goes on behind it. -/
theorem RowCounter.draw?_eq_some {rows rows' : RowCounter} {n : UInt64}
    (h : rows.draw? = some (n, rows')) :
    n.toNat = rows.next ∧ rows'.next = rows.next + 1 := by
  unfold draw? at h
  split at h
  · next hlt =>
    cases h
    exact ⟨UInt64.toNat_ofNat_of_lt' hlt, rfl⟩
  · cases h

namespace Draft

variable {next : Schema} {d d' d'' : Draft} {rows rows' rows'' : RowCounter}

/-- A new record and what it is stored as: its defaults are filled, and in an entity without a
primary key it has a number that was drawn between two counters. -/
def Completed (next : Schema) (rows rows' : RowCounter) (new added : String × Record) : Prop :=
  added.1 = new.1 ∧ ∃ e, next.entity? new.1 = some e ∧
    ((e.isKeyed = true ∧ added.2 = e.fillDefaults new.2) ∨
      (e.isKeyed = false ∧ ∃ n : UInt64, rows.next ≤ n.toNat ∧ n.toNat < rows'.next ∧
        added.2 = e.fillDefaults (new.2.withKey (.row n))))

/-- A record that was completed between two counters was so between two counters around them. -/
theorem Completed.mono {lo hi : RowCounter} {new added : String × Record}
    (h : Completed next rows rows' new added) (hlo : lo.next ≤ rows.next)
    (hhi : rows'.next ≤ hi.next) : Completed next lo hi new added := by
  obtain ⟨hname, e, he, hkeyed | ⟨hrow, n, hn, hn', hadded⟩⟩ := h
  · exact ⟨hname, e, he, .inl hkeyed⟩
  · exact ⟨hname, e, he, .inr ⟨hrow, n, Nat.le_trans hlo hn, Nat.lt_of_lt_of_le hn' hhi, hadded⟩⟩

/-- An added record is what a new one was completed to. -/
theorem exists_of_mem_completed {new added : List (String × Record)}
    (h : List.Forall₂ (Completed next rows rows') new added) {p : String × Record}
    (hp : p ∈ added) : ∃ q ∈ new, Completed next rows rows' q p := by
  induction h with
  | nil => cases hp
  | cons hfirst _ ih =>
    rcases List.mem_cons.1 hp with rfl | hp
    · exact ⟨_, List.mem_cons_self, hfirst⟩
    · obtain ⟨q, hq, hc⟩ := ih hp
      exact ⟨q, List.mem_cons_of_mem _ hq, hc⟩

/-- New records that are complete are added as they are. -/
theorem eq_of_completed {new added : List (String × Record)}
    (h : List.Forall₂ (Completed next rows rows') new added)
    (hcomplete : ∀ p ∈ new, ∀ q, Completed next rows rows' p q → q = p) : added = new := by
  induction h with
  | nil => rfl
  | cons hfirst _ ih =>
    rw [hcomplete _ List.mem_cons_self _ hfirst,
      ih fun p hp => hcomplete p (List.mem_cons_of_mem _ hp)]

/-- The entity and the key of a record. -/
def place (p : String × Record) : String × Key := (p.1, p.2.key)

/-- A draft has become another one by adding records, and nothing else. -/
structure Grows (next : Schema) (d : Draft) (rows : RowCounter) (new : List (String × Record))
    (d' : Draft) (rows' : RowCounter) : Prop where
  /-- The counter has not gone back. -/
  counter : rows.next ≤ rows'.next
  /-- The new records as they were added: completed, under different keys, which were free. -/
  added : ∃ added, List.Forall₂ (Completed next rows rows') new added ∧
    (added.map place).Nodup ∧ (∀ p ∈ added, (d.table p.1)[p.2.key]? = none) ∧
    ∀ (name : String) (key : Key) (r : Record), (d'.table name)[key]? = some r ↔
      (d.table name)[key]? = some r ∨ ((name, r) ∈ added ∧ r.key = key)

/-- Nothing added. -/
theorem Grows.refl (next : Schema) (d : Draft) (rows : RowCounter) :
    Grows next d rows [] d rows :=
  ⟨Nat.le_refl _, [], .nil, List.nodup_nil, fun _ hmem => (by cases hmem), fun _ _ _ => by simp⟩

/-- Adding one list of records after another is adding both. -/
theorem Grows.trans {new new' : List (String × Record)} (h : Grows next d rows new d' rows')
    (h' : Grows next d' rows' new' d'' rows'') :
    Grows next d rows (new ++ new') d'' rows'' := by
  obtain ⟨added, hcompleted, hnodup, hfree, htable⟩ := h.added
  obtain ⟨added', hcompleted', hnodup', hfree', htable'⟩ := h'.added
  have hfirst : List.Forall₂ (Completed next rows rows'') new added :=
    hcompleted.imp fun _ _ hc => hc.mono (Nat.le_refl _) h'.counter
  have hsecond : List.Forall₂ (Completed next rows rows'') new' added' :=
    hcompleted'.imp fun _ _ hc => hc.mono h.counter (Nat.le_refl _)
  -- What was added first is there when the second list is added.
  have hpresent : ∀ p ∈ added, (d'.table p.1)[p.2.key]? = some p.2 :=
    fun p hp => (htable p.1 p.2.key p.2).2 (.inr ⟨hp, rfl⟩)
  refine ⟨Nat.le_trans h.counter h'.counter, added ++ added', List.rel_append hfirst hsecond, ?_,
    fun p hp => ?_, fun name key r => ?_⟩
  · rw [List.map_append, List.nodup_append]
    refine ⟨hnodup, hnodup', ?_⟩
    -- A key of the second list was free when the first list had been added.
    rintro _ hplace _ hplace' rfl
    obtain ⟨p, hp, rfl⟩ := List.mem_map.1 hplace
    obtain ⟨q, hq, hsame⟩ := List.mem_map.1 hplace'
    obtain ⟨hname, hkey⟩ := Prod.mk.inj hsame
    have hfreeq := hfree' q hq
    rw [hname, hkey, hpresent p hp] at hfreeq
    cases hfreeq
  · rcases List.mem_append.1 hp with hp | hp
    · exact hfree p hp
    · -- A key that was taken at the start is taken when the second list is added.
      cases hold : (d.table p.1)[p.2.key]? with
      | none => rfl
      | some r =>
        have hfreep := hfree' p hp
        rw [(htable p.1 p.2.key r).2 (.inl hold)] at hfreep
        cases hfreep
  · rw [htable', htable, List.mem_append]
    constructor
    · rintro ((hr | ⟨hmem, hkey⟩) | ⟨hmem, hkey⟩)
      · exact .inl hr
      · exact .inr ⟨.inl hmem, hkey⟩
      · exact .inr ⟨.inr hmem, hkey⟩
    · rintro (hr | ⟨hmem | hmem, hkey⟩)
      · exact .inl (.inl hr)
      · exact .inl (.inr ⟨hmem, hkey⟩)
      · exact .inr ⟨hmem, hkey⟩

/-- What a draft becomes by growing depends on its tables alone. -/
theorem Grows.congr {e e' : Draft} {new : List (String × Record)}
    (h : Grows next d rows new d' rows') (hd : ∀ name, e.table name = d.table name)
    (hd' : ∀ name, e'.table name = d'.table name) : Grows next e rows new e' rows' := by
  obtain ⟨added, hcompleted, hnodup, hfree, htable⟩ := h.added
  refine ⟨h.counter, added, hcompleted, hnodup, fun p hp => ?_, fun name key r => ?_⟩
  · rw [hd]
    exact hfree p hp
  · rw [hd, hd']
    exact htable name key r

/-- A record that is put under a free key joins those that the tables hold. -/
theorem getElem?_table_put_iff_of_free {name : String} {r : Record}
    (hfree : (d.table name)[r.key]? = none) (other : String) (key : Key) (r' : Record) :
    ((d.put name r).table other)[key]? = some r' ↔
      (d.table other)[key]? = some r' ∨ ((other, r') ∈ [(name, r)] ∧ r'.key = key) := by
  rw [getElem?_table_put, List.mem_singleton, Prod.mk.injEq]
  by_cases heq : name = other ∧ r.key = key
  · obtain ⟨rfl, rfl⟩ := heq
    rw [if_pos ⟨rfl, rfl⟩, Option.some_inj, hfree]
    constructor
    · rintro rfl
      exact .inr ⟨⟨rfl, rfl⟩, rfl⟩
    · rintro (hnone | ⟨⟨-, rfl⟩, -⟩)
      · cases hnone
      · rfl
  · rw [if_neg heq]
    constructor
    · exact .inl
    · rintro (hr | ⟨⟨rfl, rfl⟩, hkey⟩)
      · exact hr
      · exact absurd ⟨rfl, hkey⟩ heq

/-- A record that is added makes a draft grow by it. -/
theorem grows_add {name : String} {r : Record}
    (h : (d.add next name r).run.run rows = (.ok d', rows')) :
    Grows next d rows [(name, r)] d' rows' := by
  obtain ⟨e, r', he, hcompletes, hadd⟩ := add_ok_iff.1 h
  obtain ⟨hfree, rfl⟩ := addKeyed_eq_ok_iff.1 hadd
  rw [contains_eq_isSome, Option.isSome_eq_false_iff, Option.isNone_iff_eq_none] at hfree
  -- A keyed record is added as it is; any other is given the number that is drawn for it.
  have hcompleted : Completed next rows rows' (name, r) (name, r') ∧ rows.next ≤ rows'.next := by
    cases hcompletes with
    | keyed hkeyed => exact ⟨⟨rfl, e, he, .inl ⟨hkeyed, rfl⟩⟩, Nat.le_refl _⟩
    | @row n _ hrow hdraw =>
      obtain ⟨hn, hnext⟩ := RowCounter.draw?_eq_some hdraw
      exact ⟨⟨rfl, e, he, .inr ⟨hrow, n, by omega, by omega, rfl⟩⟩, by omega⟩
  refine ⟨hcompleted.2, [(name, r')], .cons hcompleted.1 .nil, ?_, fun p hp => ?_,
    getElem?_table_put_iff_of_free hfree⟩
  · rw [List.map_singleton]
    exact List.nodup_singleton _
  · rw [List.mem_singleton.1 hp]
    exact hfree

/-- Inserted records make a draft grow by all of them. -/
theorem grows_addAll {inserts : List (String × Record)}
    (h : (d.addAll next inserts).run.run rows = (.ok d', rows')) :
    Grows next d rows inserts d' rows' := by
  -- The draft has grown by the inserts before those still to come.
  let motive (rest : List (String × Record)) (d' : Draft) (rows' : RowCounter) : Prop :=
    ∃ done, inserts = done ++ rest ∧ Grows next d rows done d' rows'
  have hinit : motive inserts d rows := ⟨[], rfl, .refl next d rows⟩
  have hstep : ∀ p rest d₁ rows₁ d₂ rows₂, motive (p :: rest) d₁ rows₁ →
      (d₁.add next p.1 p.2).run.run rows₁ = (.ok d₂, rows₂) → motive rest d₂ rows₂ := by
    rintro ⟨name, r⟩ rest d₁ rows₁ d₂ rows₂ ⟨done, hdone, hgrows⟩ hadd
    exact ⟨done ++ [(name, r)], by simp [hdone], hgrows.trans (grows_add hadd)⟩
  obtain ⟨done, hdone, hgrows⟩ := Drawing.foldlM_induct motive hstep hinit h
  rw [List.append_nil] at hdone
  rw [hdone]
  exact hgrows

/-! ## Emitted records -/

/-- The emitted records that are kept: of those with one key of a keyed entity the first, unless the
key is among those seen before. -/
def firsts (next : Schema) : List (String × Key) → List (String × Record) → List (String × Record)
  | _, [] => []
  | seen, p :: rest =>
    if keyedIn next p.1 then
      if seen.contains (place p) then firsts next seen rest
      else p :: firsts next (place p :: seen) rest
    else p :: firsts next seen rest

/-- The keys of keyed entities that are seen after records are emitted. -/
def seenAfter (next : Schema) (seen : List (String × Key)) (emitted : List (String × Record)) :
    List (String × Key) :=
  emitted.foldl (fun seen p =>
    if keyedIn next p.1 && !seen.contains (place p) then place p :: seen else seen) seen

theorem firsts_cons (seen : List (String × Key)) (p : String × Record)
    (rest : List (String × Record)) :
    firsts next seen (p :: rest) =
      if keyedIn next p.1 then
        if seen.contains (place p) then firsts next seen rest
        else p :: firsts next (place p :: seen) rest
      else p :: firsts next seen rest := rfl

theorem seenAfter_cons (seen : List (String × Key)) (p : String × Record)
    (rest : List (String × Record)) :
    seenAfter next seen (p :: rest) = seenAfter next
      (if keyedIn next p.1 && !seen.contains (place p) then place p :: seen else seen) rest := rfl

/-- The kept records of one list after another. -/
theorem firsts_append (seen : List (String × Key)) (emitted more : List (String × Record)) :
    firsts next seen (emitted ++ more) =
      firsts next seen emitted ++ firsts next (seenAfter next seen emitted) more := by
  induction emitted generalizing seen with
  | nil => rfl
  | cons p rest ih =>
    rw [List.cons_append, firsts_cons seen p (rest ++ more), firsts_cons seen p rest,
      seenAfter_cons]
    cases keyedIn next p.1 with
    | true =>
      cases seen.contains (place p) with
      | true => exact ih seen
      | false => exact congrArg (p :: ·) (ih (place p :: seen))
    | false => exact congrArg (p :: ·) (ih seen)

/-- The keys seen after one list and then another. -/
theorem seenAfter_append (seen : List (String × Key)) (emitted more : List (String × Record)) :
    seenAfter next seen (emitted ++ more) = seenAfter next (seenAfter next seen emitted) more :=
  List.foldl_append

/-- In keyed entities those are kept that are the first under their keys. -/
theorem mem_firsts_iff {seen : List (String × Key)} {emitted : List (String × Record)}
    (hkeyed : ∀ p ∈ emitted, keyedIn next p.1 = true) {p : String × Record} :
    p ∈ firsts next seen emitted ↔
      place p ∉ seen ∧ emitted.find? (fun q => place q == place p) = some p := by
  induction emitted generalizing seen with
  | nil => simp [firsts]
  | cons q rest ih =>
    have hrest : ∀ p ∈ rest, keyedIn next p.1 = true :=
      fun p hp => hkeyed p (List.mem_cons_of_mem q hp)
    rw [firsts_cons, if_pos (hkeyed q List.mem_cons_self), List.find?_cons]
    by_cases hplace : place q = place p
    · -- Of the records under this key, this one is the first.
      rw [beq_iff_eq.2 hplace]
      split
      · next hseen =>
        have hmem : place p ∈ seen := hplace ▸ List.contains_iff_mem.1 hseen
        rw [ih hrest]
        exact ⟨fun h => absurd hmem h.1, fun h => absurd hmem h.1⟩
      · next hseen =>
        have hnew : place p ∉ seen := fun hmem => hseen (List.contains_iff_mem.2 (hplace ▸ hmem))
        rw [List.mem_cons, ih hrest, Option.some_inj]
        constructor
        · rintro (rfl | ⟨hnot, -⟩)
          · exact ⟨hnew, rfl⟩
          · exact absurd (hplace ▸ List.mem_cons_self) hnot
        · rintro ⟨-, rfl⟩
          exact .inl rfl
    · rw [beq_eq_false_iff_ne.2 hplace]
      split
      · exact ih hrest
      · rw [List.mem_cons, ih hrest, List.mem_cons, not_or]
        constructor
        · rintro (rfl | ⟨⟨-, hnot⟩, hfind⟩)
          · exact absurd rfl hplace
          · exact ⟨hnot, hfind⟩
        · rintro ⟨hnot, hfind⟩
          exact .inr ⟨⟨Ne.symm hplace, hnot⟩, hfind⟩

/-- In keyed entities no two that are kept have one key. -/
theorem nodup_firsts {emitted : List (String × Record)}
    (hkeyed : ∀ p ∈ emitted, keyedIn next p.1 = true) (seen : List (String × Key)) :
    ((firsts next seen emitted).map place).Nodup := by
  induction emitted generalizing seen with
  | nil => exact List.nodup_nil
  | cons p rest ih =>
    have hrest : ∀ q ∈ rest, keyedIn next q.1 = true :=
      fun q hq => hkeyed q (List.mem_cons_of_mem p hq)
    rw [firsts_cons, if_pos (hkeyed p List.mem_cons_self)]
    split
    · exact ih hrest seen
    · refine List.nodup_cons.2 ⟨fun hmem => ?_, ih hrest _⟩
      obtain ⟨q, hq, hplace⟩ := List.mem_map.1 hmem
      exact ((mem_firsts_iff hrest).1 hq).1 (hplace ▸ List.mem_cons_self)

/-- In keyed entities as many are kept as there are different keys. -/
theorem length_firsts {emitted : List (String × Record)}
    (hkeyed : ∀ p ∈ emitted, keyedIn next p.1 = true) :
    (firsts next [] emitted).length = (emitted.map place).dedup.length := by
  have hperm : ((firsts next [] emitted).map place).Perm (emitted.map place).dedup := by
    refine (List.perm_ext_iff_of_nodup (nodup_firsts hkeyed []) (List.nodup_dedup _)).2 fun x => ?_
    rw [List.mem_dedup, List.mem_map, List.mem_map]
    constructor
    · rintro ⟨p, hp, rfl⟩
      exact ⟨p, List.mem_of_find?_eq_some ((mem_firsts_iff hkeyed).1 hp).2, rfl⟩
    · rintro ⟨p, hp, rfl⟩
      obtain ⟨q, hq⟩ : ∃ q, emitted.find? (fun q => place q == place p) = some q :=
        Option.isSome_iff_exists.1 (List.find?_isSome.2 ⟨p, hp, beq_self_eq_true _⟩)
      have hplace : place q = place p := by simpa using List.find?_some hq
      exact ⟨q, (mem_firsts_iff hkeyed).2 ⟨List.not_mem_nil, hplace ▸ hq⟩, hplace⟩
  rw [← hperm.length_eq, List.length_map]

/-- Adding a record notes no key. -/
theorem emitted_add {name : String} {r : Record}
    (h : (d.add next name r).run.run rows = (.ok d', rows')) : d'.emitted = d.emitted := by
  obtain ⟨e, r', -, -, hadd⟩ := add_ok_iff.1 h
  obtain ⟨-, rfl⟩ := addKeyed_eq_ok_iff.1 hadd
  rfl

/-- An emitted record is kept if it is the first under its key. -/
theorem firsts_of_emit {name : String} {r : Record} {kept : Bool}
    (h : (d.emit next name r).run.run rows = (.ok (d', kept), rows')) :
    firsts next d.emitted [(name, r)] = if kept then [(name, r)] else [] := by
  rw [firsts_cons]
  rcases emit_ok_cases h with ⟨hkeyed, hmem, -, rfl, -⟩ | ⟨_, -, rfl, hnew, -⟩
  · have hseen : d.emitted.contains (place (name, r)) = true := List.contains_iff_mem.2 hmem
    rw [hkeyed, hseen]
    rfl
  · cases hkeyed : keyedIn next name with
    | false => rfl
    | true =>
      have hseen : d.emitted.contains (place (name, r)) = false := by
        rw [Bool.eq_false_iff]
        exact fun hmem => hnew hkeyed (List.contains_iff_mem.1 hmem)
      rw [hseen]
      rfl

/-- An emitted record makes a draft grow by it if it is kept, and notes its key. -/
theorem grows_emit {name : String} {r : Record} {kept : Bool}
    (h : (d.emit next name r).run.run rows = (.ok (d', kept), rows')) :
    Grows next d rows (firsts next d.emitted [(name, r)]) d' rows' ∧
      d'.emitted = seenAfter next d.emitted [(name, r)] := by
  rw [firsts_of_emit h, seenAfter_cons]
  rcases emit_ok_cases h with ⟨hkeyed, hmem, rfl, rfl, rfl⟩ | ⟨d₁, hadd, rfl, hnew, rfl⟩
  · have hseen : d'.emitted.contains (place (name, r)) = true := List.contains_iff_mem.2 hmem
    rw [hkeyed, hseen]
    exact ⟨.refl next _ _, rfl⟩
  · have hgrows := grows_add hadd
    have hemitted := emitted_add hadd
    cases hkeyed : keyedIn next name with
    | true =>
      have hseen : d.emitted.contains (place (name, r)) = false := by
        rw [Bool.eq_false_iff]
        exact fun hmem => hnew hkeyed (List.contains_iff_mem.1 hmem)
      rw [hseen]
      refine ⟨hgrows.congr (fun _ => rfl) fun _ => rfl, ?_⟩
      exact congrArg ((name, r.key) :: ·) hemitted
    | false => exact ⟨hgrows, hemitted⟩

/-- The kept records, of one that is emitted and those that follow. -/
theorem firsts_cons_of_emit {name : String} {r : Record} {kept : Bool}
    (h : (d.emit next name r).run.run rows = (.ok (d', kept), rows'))
    (rest : List (String × Record)) :
    firsts next d.emitted ((name, r) :: rest) =
      firsts next d.emitted [(name, r)] ++ firsts next d'.emitted rest := by
  rw [(grows_emit h).2]
  exact firsts_append d.emitted [(name, r)] rest

/-- Emitted records make a draft grow by those that are kept. -/
theorem grows_emitAll {emitted : List (String × Record)} {dropped : Nat}
    (h : (emitAll next d emitted).run.run rows = (.ok (d', dropped), rows')) :
    Grows next d rows (firsts next d.emitted emitted) d' rows' ∧
      d'.emitted = seenAfter next d.emitted emitted := by
  let motive (rest : List (String × Record)) (d' : Draft) (rows' : RowCounter) : Prop :=
    ∃ done, emitted = done ++ rest ∧ Grows next d rows (firsts next d.emitted done) d' rows' ∧
      d'.emitted = seenAfter next d.emitted done
  have hinit : motive emitted d rows := ⟨[], rfl, .refl next d rows, rfl⟩
  have hstep : ∀ name r rest d₁ rows₁ d₂ kept rows₂, motive ((name, r) :: rest) d₁ rows₁ →
      (d₁.emit next name r).run.run rows₁ = (.ok (d₂, kept), rows₂) → motive rest d₂ rows₂ := by
    rintro name r rest d₁ rows₁ d₂ kept rows₂ ⟨done, hdone, hgrows, hseen⟩ hemit
    obtain ⟨hgrows', hseen'⟩ := grows_emit hemit
    rw [hseen] at hgrows' hseen'
    refine ⟨done ++ [(name, r)], by simp [hdone], ?_, ?_⟩
    · rw [firsts_append]
      exact hgrows.trans hgrows'
    · rw [seenAfter_append]
      exact hseen'
  obtain ⟨done, hdone, hgrows, hseen⟩ := emitAll_induct motive hstep hinit h
  rw [List.append_nil] at hdone
  rw [hdone]
  exact ⟨hgrows, hseen⟩

end Draft

end Strata
