import Strata.Proofs.History

/-!
# Definitions of entities along a history

The edits of an entity, in order, say what its definition becomes (`Edit.define`), whatever else a
step does. So in a history whose steps start from one version after the other, an entity is defined
at each version by the edits of the steps before it (`Registry.entity?_of_consecutive`).
-/

namespace Strata

namespace Edit

/-- The definition of an entity after an edit. -/
def define (name : String) (e? : Option Entity) (edit : Edit) : Option Entity :=
  if edit.entity = name then
    match edit with
    | addField _ f | addReference _ f => e?.map (·.addField f)
    | removeField _ field => e?.map (·.removeField field)
    | createTable e => some e
  else e?

variable {cleared : List String} {schema schema' : Schema} {version : Nat} {edit : Edit}
  {e : Entity}

/-- An accepted edit puts in the place of its entity what the edit makes of it. -/
theorem Reshapes.define_eq (hr : Reshapes cleared schema edit e) :
    define edit.entity (schema.entity? edit.entity) edit = some e := by
  unfold define
  rw [if_pos rfl]
  cases hr with
  | @added _ name e f isAdd old =>
    rcases isAdd with rfl | rfl
    all_goals
      change (schema.entity? name).map _ = _
      rw [old]
      rfl
  | @removed name field e f old =>
    change (schema.entity? name).map _ = _
    rw [old]
    rfl
  | created => rfl

/-- Accepted edits make of each definition what those of its entity say. -/
theorem applyAll_entity? {edits : List Edit}
    (h : applyAll edits schema cleared version = .ok schema') (name : String) :
    schema'.entity? name = edits.foldl (define name) (schema.entity? name) := by
  let motive (rest : List Edit) (s : Schema) : Prop :=
    rest.foldl (define name) (s.entity? name) = edits.foldl (define name) (schema.entity? name)
  have hnext : ∀ edit rest (s s' : Schema), motive (edit :: rest) s →
      edit.apply s cleared version = .ok s' → motive rest s' := by
    intro edit rest s s' hs hstep
    obtain ⟨e, hr, rfl⟩ := apply_eq_ok hstep
    have hdefine : (s.put edit.entity e).entity? name = define name (s.entity? name) edit := by
      rw [Schema.entity?_put]
      -- An edit of another entity puts that one, and leaves this one as it was.
      by_cases heq : edit.entity = name
      · rw [if_pos heq]
        subst heq
        exact hr.define_eq.symm
      · rw [if_neg heq]
        unfold define
        rw [if_neg heq]
    unfold motive
    rw [hdefine]
    exact hs
  exact foldlM_induct motive hnext rfl h

end Edit

namespace Registry

variable {baseline : Schema} {steps : List Step} {registry : Registry}

/-- The definition of an entity after the edits of steps. -/
def defineAll (name : String) (e? : Option Entity) (steps : List Step) : Option Entity :=
  steps.foldl (fun e? step => step.edits.foldl (Edit.define name) e?) e?

variable (h : build baseline steps = .ok registry)
  (hsources : steps.map (·.source) = List.range' baseline.version steps.length)

include h hsources

/-- In a history whose steps start from one version after the other, a step is registered for each
version before the last. -/
theorem stepFor?_of_consecutive {count : Nat} (hlt : count < steps.length) :
    registry.stepFor? (baseline.version + count) = some steps[count] := by
  have hsource : steps[count].source = baseline.version + count := by
    have hat := congrArg (fun sources => sources[count]?) hsources
    simpa [hlt] using hat
  rw [← hsource]
  exact stepFor?_source h (List.getElem_mem hlt)

/-- In a history whose steps start from one version after the other, an entity is defined at each
version by the steps before it. -/
theorem entity?_of_consecutive {count : Nat} (hcount : count ≤ steps.length) :
    ∃ schema, registry.schemaAt? (baseline.version + count) = some schema ∧
      ∀ name, schema.entity? name = defineAll name (baseline.entity? name) (steps.take count) := by
  induction count with
  | zero => exact ⟨baseline, schemaAt?_baseline h, fun _ => rfl⟩
  | succ count ih =>
    obtain ⟨live, hlive, hdefined⟩ := ih (by omega)
    have hlt : count < steps.length := hcount
    have hstep := stepFor?_of_consecutive h hsources hlt
    obtain ⟨live', next, hlive', haccepts, hnext, -⟩ := exists_accepts h hstep
    rw [hlive] at hlive'
    cases hlive'
    refine ⟨_, hnext, fun name => ?_⟩
    rw [entity?_atVersion, Edit.applyAll_entity? haccepts.edits, hdefined name,
      List.take_succ_eq_append_getElem hlt]
    unfold defineAll
    rw [List.foldl_append]
    rfl

end Registry

end Strata
