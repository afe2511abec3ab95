import Strata.Proofs.StepEffect

/-!
# How a transform is settled

While the outputs of a transform are settled, its table is filled again: a changed record is put
back, whatever the table holds under its key, and the records that it emits are added under free
keys. `Draft.Settles` is a run of such actions. What is in a table stays there until a record is put
back under its key (`Settles.get?_of_not_put`), so an emitted record that is the first under its key
was added under a free one, and is there at the end unless a later record is put back over it
(`Settles.exists_of_emit`). The emitted records that were dropped are those that are not among the
first (`Settles.dropped_add_firsts`).
-/

namespace Strata

namespace Draft

/-- What happens to a draft at a time while outputs are settled. -/
inductive Action where
  /-- A changed record is put back. -/
  | put (r : Record)
  /-- A record is emitted into an entity. -/
  | emit (entity : String) (r : Record)

/-- The record that an action puts back. -/
def Action.put? : Action → Option Record
  | put r => some r
  | emit .. => none

/-- The record that an action emits, with its entity. -/
def Action.emit? : Action → Option (String × Record)
  | put _ => none
  | emit entity r => some (entity, r)

/-- Actions take a draft and a row counter to others, for the entity that records are put back into,
and drop a number of the emitted records. -/
inductive Settles (next : Schema) (name : String) :
    Draft → RowCounter → List Action → Draft → RowCounter → Nat → Prop
  /-- No action is taken. -/
  | nil {d : Draft} {rows : RowCounter} : Settles next name d rows [] d rows 0
  /-- A record is put back first. -/
  | put {d d' : Draft} {rows rows' : RowCounter} {r : Record} {rest : List Action} {dropped : Nat}
      (later : Settles next name (d.put name r) rows rest d' rows' dropped) :
      Settles next name d rows (.put r :: rest) d' rows' dropped
  /-- A record is emitted first. -/
  | emit {d d₁ d' : Draft} {rows rows₁ rows' : RowCounter} {entity : String} {r : Record}
      {kept : Bool} {rest : List Action} {dropped : Nat}
      (emitted : (d.emit next entity r).run.run rows = (.ok (d₁, kept), rows₁))
      (later : Settles next name d₁ rows₁ rest d' rows' dropped) :
      Settles next name d rows (.emit entity r :: rest) d' rows'
        ((if kept then 0 else 1) + dropped)

variable {next : Schema} {name other : String} {d d₁ d' : Draft} {rows rows₁ rows' : RowCounter}
  {actions more : List Action} {dropped dropped' : Nat} {key : Key} {r : Record}

/-! ## Runs of actions -/

/-- Actions one after the other. -/
theorem Settles.append (h : Settles next name d rows actions d₁ rows₁ dropped)
    (h' : Settles next name d₁ rows₁ more d' rows' dropped') :
    Settles next name d rows (actions ++ more) d' rows' (dropped + dropped') := by
  induction h with
  | nil =>
    rw [Nat.zero_add]
    exact h'
  | put _ ih => exact .put (ih h')
  | emit hemit _ ih =>
    rw [Nat.add_assoc]
    exact .emit hemit (ih h')

/-- Actions that were taken can be looked at up to any point. -/
theorem Settles.split (h : Settles next name d rows (actions ++ more) d' rows' dropped) :
    ∃ d₁ rows₁ n m, Settles next name d rows actions d₁ rows₁ n ∧
      Settles next name d₁ rows₁ more d' rows' m := by
  induction actions generalizing d rows dropped with
  | nil => exact ⟨d, rows, 0, dropped, .nil, h⟩
  | cons action rest ih =>
    cases h with
    | put hrest =>
      obtain ⟨d₁, rows₁, n, m, hfirst, hsecond⟩ := ih hrest
      exact ⟨d₁, rows₁, n, m, .put hfirst, hsecond⟩
    | emit hemit hrest =>
      obtain ⟨d₁, rows₁, n, m, hfirst, hsecond⟩ := ih hrest
      exact ⟨d₁, rows₁, _, m, .emit hemit hfirst, hsecond⟩

/-- Emitting records is a run of actions. -/
theorem settles_emitAll {emitted : List (String × Record)}
    (h : (emitAll next d emitted).run.run rows = (.ok (d', dropped), rows')) :
    Settles next name d rows (emitted.map fun p => .emit p.1 p.2) d' rows' dropped := by
  let motive (rest : List (String × Record)) (state : Draft × Nat) (rows' : RowCounter) : Prop :=
    ∃ done, emitted = done ++ rest ∧
      Settles next name d rows (done.map fun p => .emit p.1 p.2) state.1 rows' state.2
  have hstep : ∀ p rest state rows₁ state' rows₂, motive (p :: rest) state rows₁ →
      (state.1.emit next p.1 p.2 >>= fun q =>
        pure (q.1, if q.2 then state.2 else state.2 + 1) : Drawing (Draft × Nat)).run.run rows₁ =
          (.ok state', rows₂) → motive rest state' rows₂ := by
    rintro p rest ⟨d₁, n⟩ rows₁ state' rows₂ ⟨done, hdone, hsettles⟩ hrun
    obtain ⟨⟨d₂, kept⟩, rows₃, hemit, hpure⟩ := Drawing.bind_ok_iff.1 hrun
    obtain ⟨rfl, rfl⟩ := Drawing.pure_ok_iff.1 hpure
    refine ⟨done ++ [p], by simp [hdone], ?_⟩
    have hall := hsettles.append (.emit hemit .nil)
    rw [List.map_append, List.map_singleton]
    cases kept <;> exact hall
  obtain ⟨done, hdone, hsettles⟩ := Drawing.foldlM_induct motive hstep ⟨[], rfl, .nil⟩ h
  rw [List.append_nil] at hdone
  rw [hdone]
  exact hsettles

end Draft

/-- What happens while an output is settled: its record is put back, and then records are
emitted. -/
def Transform.Output.actions (output : Transform.Output) : List Draft.Action :=
  .put output.record :: output.emitted.map fun p => .emit p.1 p.2

namespace Draft

variable {next : Schema} {name other : String} {d d₁ d' : Draft} {rows rows₁ rows' : RowCounter}
  {actions before after : List Action} {dropped : Nat} {key : Key} {r : Record}

/-- Settling outputs is a run of their actions, and every record has kept its key. -/
theorem settles_settle {outputs : List (Key × Transform.Output)}
    (h : (Step.settle next name d outputs).run.run rows = (.ok (d', dropped), rows')) :
    Settles next name d rows (outputs.flatMap fun p => p.2.actions) d' rows' dropped ∧
      ∀ p ∈ outputs, p.2.record.key = p.1 := by
  let motive (rest : List (Key × Transform.Output)) (state : Draft × Nat) (rows' : RowCounter) :
      Prop :=
    ∃ done, outputs = done ++ rest ∧
      Settles next name d rows (done.flatMap fun p => p.2.actions) state.1 rows' state.2 ∧
      ∀ p ∈ done, p.2.record.key = p.1
  have hinit : motive outputs (d, 0) rows := ⟨[], rfl, .nil, fun _ hp => nomatch hp⟩
  have hend : motive [] (d', dropped) rows' := by
    refine Drawing.foldlM_induct motive ?_ hinit h
    rintro p rest ⟨d₁, n⟩ rows₁ state' rows₂ ⟨done, hdone, hsettles, hkeys⟩ hrun
    dsimp only at hrun
    split at hrun
    · obtain ⟨_, _, hthrow, -⟩ := Drawing.bind_ok_iff.1 hrun
      cases hthrow
    next hkey =>
    obtain ⟨⟨d₂, more⟩, rows₃, hemit, hpure⟩ := Drawing.bind_ok_iff.1 hrun
    obtain ⟨rfl, rfl⟩ := Drawing.pure_ok_iff.1 hpure
    refine ⟨done ++ [p], by simp [hdone], ?_, fun q hq => ?_⟩
    · rw [List.flatMap_append, List.flatMap_singleton]
      exact hsettles.append (.put (settles_emitAll hemit))
    · rcases List.mem_append.1 hq with hq | hq
      · exact hkeys q hq
      · rw [List.mem_singleton.1 hq]
        exact Decidable.not_not.1 hkey
  obtain ⟨done, hdone, hsettles, hkeys⟩ := hend
  rw [List.append_nil] at hdone
  rw [hdone]
  exact ⟨hsettles, hkeys⟩

/-! ## What stays -/

/-- What a table holds is there after a record is emitted. -/
theorem get?_of_emit {entity : String} {r' : Record} {kept : Bool}
    (h : (d.emit next entity r').run.run rows = (.ok (d', kept), rows'))
    (hr : (d.table other)[key]? = some r) : (d'.table other)[key]? = some r := by
  obtain ⟨added, -, -, -, htable⟩ := (grows_emit h).1.added
  exact (htable other key r).2 (.inl hr)

/-- What a table holds under a key stays if no record is put back under it. -/
theorem Settles.get?_of_not_put (h : Settles next name d rows actions d' rows' dropped)
    (hput : name = other → ∀ q ∈ actions.filterMap Action.put?, q.key ≠ key)
    (hr : (d.table other)[key]? = some r) : (d'.table other)[key]? = some r := by
  induction h with
  | nil => exact hr
  | @put d _ _ _ q rest _ _ ih =>
    refine ih (fun hname p hp => hput hname p (List.mem_cons_of_mem q hp)) ?_
    rw [getElem?_table_put, if_neg]
    · exact hr
    · rintro ⟨hname, hkey⟩
      exact hput hname q List.mem_cons_self hkey
  | emit hemit _ ih => exact ih hput (get?_of_emit hemit hr)

/-- A key that is taken stays taken. -/
theorem Settles.contains (h : Settles next name d rows actions d' rows' dropped)
    (hkey : (d.table other).contains key = true) : (d'.table other).contains key = true := by
  induction h with
  | nil => exact hkey
  | put _ ih =>
    refine ih ?_
    rw [contains_eq_isSome, getElem?_table_put]
    split
    · rfl
    · rw [← contains_eq_isSome]
      exact hkey
  | emit hemit _ ih => exact ih ((extends_emit hemit).keys other key hkey)

/-- A record that is put back is there at the end, if no later one is put back under its key. -/
theorem Settles.get?_of_put
    (h : Settles next name d rows (before ++ .put r :: after) d' rows' dropped)
    (hafter : ∀ q ∈ after.filterMap Action.put?, q.key ≠ r.key) :
    (d'.table name)[r.key]? = some r := by
  obtain ⟨d₁, rows₁, _, _, -, hrest⟩ := h.split
  cases hrest with
  | put hafter' =>
    refine hafter'.get?_of_not_put (fun _ => hafter) ?_
    rw [getElem?_table_put, if_pos ⟨rfl, rfl⟩]

/-! ## What is emitted -/

/-- The keys noted at the end are those of all emitted records. -/
theorem Settles.emitted (h : Settles next name d rows actions d' rows' dropped) :
    d'.emitted = seenAfter next d.emitted (actions.filterMap Action.emit?) := by
  induction h with
  | nil => rfl
  | put _ ih => exact ih
  | @emit d d₁ _ _ _ _ entity r _ rest _ hemit _ ih =>
    rw [ih, (grows_emit hemit).2]
    exact (seenAfter_append d.emitted [(entity, r)] _).symm

/-- The keys seen after records are emitted are those seen before and those of the records. -/
theorem mem_seenAfter_iff {seen : List (String × Key)} {emitted : List (String × Record)}
    {x : String × Key} : x ∈ seenAfter next seen emitted ↔
      x ∈ seen ∨ ∃ q ∈ emitted, keyedIn next q.1 = true ∧ place q = x := by
  induction emitted generalizing seen with
  | nil => simp [seenAfter]
  | cons p rest ih =>
    rw [seenAfter_cons, ih]
    cases hkeyed : keyedIn next p.1 with
    | false => simp [hkeyed]
    | true =>
      by_cases hmem : place p ∈ seen
      · rw [List.contains_iff_mem.2 hmem]
        simp only [Bool.not_true, Bool.and_false, Bool.false_eq_true, if_false, List.mem_cons,
          exists_eq_or_imp, hkeyed, true_and]
        constructor
        · rintro (h | h)
          · exact .inl h
          · exact .inr (.inr h)
        · rintro (h | rfl | h)
          · exact .inl h
          · exact .inl hmem
          · exact .inr h
      · have hnew : seen.contains (place p) = false := by
          rw [Bool.eq_false_iff]
          exact fun h => hmem (List.contains_iff_mem.1 h)
        simp only [hnew, Bool.not_false, Bool.and_self, if_true, List.mem_cons, exists_eq_or_imp,
          hkeyed, true_and, eq_comm (a := x), or_assoc, or_left_comm]

/-- Of the emitted records, those are dropped that are not the first under their keys. -/
theorem Settles.dropped_add_firsts (h : Settles next name d rows actions d' rows' dropped) :
    dropped + (firsts next d.emitted (actions.filterMap Action.emit?)).length =
      (actions.filterMap Action.emit?).length := by
  induction h with
  | nil => rfl
  | put _ ih => exact ih
  | @emit d d₁ _ _ _ _ entity r kept rest _ hemit _ ih =>
    have hone : (if kept then 0 else 1) + (firsts next d.emitted [(entity, r)]).length = 1 := by
      rw [firsts_of_emit hemit]
      cases kept <;> rfl
    change _ + (firsts next d.emitted ((entity, r) :: rest.filterMap Action.emit?)).length =
      (rest.filterMap Action.emit?).length + 1
    rw [firsts_cons_of_emit hemit, List.length_append]
    omega

/-- A record that is the first emitted under its key in a keyed entity was added under a free key,
with its defaults filled. It is there at the end, unless a record is put back under its key
afterwards. -/
theorem Settles.exists_of_emit {entity : String}
    (h : Settles next name d rows (before ++ .emit entity r :: after) d' rows' dropped)
    (hkeyed : keyedIn next entity = true) (hstart : d.emitted = [])
    (hfirst : ∀ q ∈ before.filterMap Action.emit?, place q ≠ (entity, r.key)) :
    ∃ e, next.entity? entity = some e ∧ (d.table entity)[r.key]? = none ∧
      (name = entity → ∀ q ∈ before.filterMap Action.put?, q.key ≠ r.key) ∧
      ((name = entity → ∀ q ∈ after.filterMap Action.put?, q.key ≠ r.key) →
        (d'.table entity)[r.key]? = some (e.fillDefaults r)) := by
  obtain ⟨d₁, rows₁, _, _, hbefore, hrest⟩ := h.split
  cases hrest with
  | @emit _ d₂ _ _ rows₂ _ _ _ kept _ _ hemit hafter =>
    rcases emit_ok_cases hemit with ⟨-, hmem, -⟩ | ⟨d₃, hadd, -, -, hd₂⟩
    · -- No key was noted before, and none like this one since.
      rw [hbefore.emitted, hstart, mem_seenAfter_iff] at hmem
      rcases hmem with hmem | ⟨q, hq, -, hplace⟩
      · cases hmem
      · exact absurd hplace (hfirst q hq)
    · obtain ⟨e, r', he, hcompletes, hput⟩ := add_ok_iff.1 hadd
      obtain ⟨hfree, rfl⟩ := addKeyed_eq_ok_iff.1 hput
      have hcompleted : r' = e.fillDefaults r := by
        cases hcompletes with
        | keyed => rfl
        | row hrow =>
          unfold keyedIn at hkeyed
          rw [he, Option.any_some, hrow] at hkeyed
          cases hkeyed
      subst hcompleted
      rw [Entity.key_fillDefaults] at hfree
      -- A key that is free now has been free all along.
      have hfree₀ : ∀ {d₀ : Draft} {rows₀ : RowCounter} {acts : List Action} {n : Nat},
          Settles next name d₀ rows₀ acts d₁ rows₁ n →
            (d₀.table entity).contains r.key = false := by
        intro d₀ rows₀ acts n hacts
        cases hold : (d₀.table entity).contains r.key with
        | false => rfl
        | true =>
          rw [hacts.contains hold] at hfree
          cases hfree
      refine ⟨e, he, ?_, ?_, fun hlater => ?_⟩
      · have hnone := hfree₀ hbefore
        rw [contains_eq_isSome, Option.isSome_eq_false_iff, Option.isNone_iff_eq_none] at hnone
        exact hnone
      · rintro rfl q hq hkey
        obtain ⟨action, haction, hq⟩ := List.mem_filterMap.1 hq
        cases action with
        | emit => cases hq
        | put q' =>
          cases hq
          obtain ⟨pre, post, rfl⟩ := List.append_of_mem haction
          obtain ⟨d₀, rows₀, _, _, -, hacts⟩ := hbefore.split
          cases hacts with
          | put hacts =>
            have hnone := hfree₀ hacts
            rw [contains_eq_isSome, getElem?_table_put, if_pos ⟨rfl, hkey⟩] at hnone
            cases hnone
      · refine hafter.get?_of_not_put hlater ?_
        rw [hd₂, if_pos hkeyed]
        change ((d₁.put entity (e.fillDefaults r)).table entity)[r.key]? = _
        rw [getElem?_table_put, if_pos ⟨rfl, Entity.key_fillDefaults e r⟩]

end Draft

end Strata
