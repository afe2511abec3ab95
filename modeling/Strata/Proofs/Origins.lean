import Strata.Proofs.Versions

/-!
# Where fields come from

A schema of a history defines a field because the baseline does, or because an edit of an earlier
step has brought it in (`Registry.defines_origin`): as a field of a table that the edit creates, or
alone, as a field added to a table that is there. The two are not looked at for the same things, and
`Edit.Brings` says what is known of the field in each case.
-/

namespace Strata

namespace Schema

/-- Whether a schema defines a field, just as it is, for the entity of a name. -/
def Defines (s : Schema) (name : String) (f : Field) : Prop :=
  ∃ e, s.entity? name = some e ∧ f ∈ e.fields

/-- With an entity put under a name, a schema defines the fields of that entity there. -/
theorem defines_put {s : Schema} {name other : String} {e : Entity} {f : Field} :
    (s.put name e).Defines other f ↔
      if name = other then f ∈ e.fields else s.Defines other f := by
  unfold Defines
  rw [entity?_put]
  by_cases heq : name = other
  · simp [heq]
  · simp [heq]

end Schema

namespace Edit

/-- Whether an accepted edit brings in a field of an entity, and what it was looked at for. -/
inductive Brings (cleared : List String) (name : String) (f : Field) : Edit → Prop
  /-- The field is added, as the primary key of a table that is emptied or with a default that it
  admits. -/
  | added {edit : Edit} (isAdd : edit = .addField name f ∨ edit = .addReference name f)
      (primary : f.primaryKey = true → name ∈ cleared)
      (plain : f.primaryKey = false →
        ∃ value, f.effectiveDefault? = some value ∧ f.admits value = true) :
      Brings cleared name f edit
  /-- A table is created with the field, which is no reference if it is the primary key. -/
  | created {e : Entity} (named : e.name = name) (mem : f ∈ e.fields)
      (keyType : f.primaryKey = true → f.type.target? = none) :
      Brings cleared name f (.createTable e)

variable {cleared : List String} {schema schema' : Schema} {version : Nat} {edit : Edit}
  {name : String} {e : Entity} {f : Field}

/-- A field of the entity that an accepted edit puts was there before or is brought in. -/
theorem Reshapes.defines_cases (hr : Reshapes cleared schema edit e) (hf : f ∈ e.fields) :
    schema.Defines edit.entity f ∨ edit.Brings cleared edit.entity f := by
  cases hr with
  | added isAdd old new target primary plain =>
    rw [entity_eq_of_isAdd isAdd]
    rcases Entity.mem_fields_addField.1 hf with hmem | rfl
    · exact .inl ⟨_, old, hmem⟩
    · exact .inr (.added isAdd (fun hkey => (primary hkey).2) plain)
  | removed old => exact .inl ⟨_, old, List.mem_of_mem_eraseP hf⟩
  | created absent distinct targets keyType => exact .inr (.created rfl hf (keyType f hf))

/-- A field that is defined after an accepted edit was there before or is brought in. -/
theorem apply_defines_cases (h : edit.apply schema cleared version = .ok schema')
    (hf : schema'.Defines name f) : schema.Defines name f ∨ edit.Brings cleared name f := by
  obtain ⟨e, hr, rfl⟩ := apply_eq_ok h
  rw [Schema.defines_put] at hf
  split at hf
  · next heq =>
    subst heq
    exact hr.defines_cases hf
  · exact .inl hf

/-- A field that is defined after accepted edits was there before them or is brought in by one. -/
theorem applyAll_defines_cases {edits : List Edit}
    (h : applyAll edits schema cleared version = .ok schema') (hf : schema'.Defines name f) :
    schema.Defines name f ∨ ∃ edit ∈ edits, edit.Brings cleared name f := by
  unfold applyAll at h
  induction edits generalizing schema with
  | nil =>
    cases h
    exact .inl hf
  | cons edit rest ih =>
    rw [List.foldlM_cons, bind_eq_ok_iff] at h
    obtain ⟨between, hedit, hrest⟩ := h
    rcases ih hrest with hbetween | ⟨later, hmem, hbrings⟩
    · rcases apply_defines_cases hedit hbetween with hbefore | hbrings
      · exact .inl hbefore
      · exact .inr ⟨edit, List.mem_cons_self, hbrings⟩
    · exact .inr ⟨later, List.mem_cons_of_mem _ hmem, hbrings⟩

end Edit

namespace Registry

variable {baseline s : Schema} {steps : List Step} {registry : Registry} {version : Nat}
  {name : String} {f : Field}

/-- A field that is defined at a version is one of the baseline, or a step before that version has
brought it in. -/
theorem defines_origin (h : build baseline steps = .ok registry)
    (hs : registry.schemaAt? version = some s) (hf : s.Defines name f) :
    baseline.Defines name f ∨ ∃ step ∈ steps, step.source < version ∧
      ∃ edit ∈ step.edits, edit.Brings step.clears name f := by
  induction version using Nat.strongRecOn generalizing s with
  | ind version ih =>
    -- A schema is the baseline, or comes from one of an earlier version.
    cases schemaAt?_origin h hs with
    | baseline => exact .inl hf
    | @step step live next mem source accepts =>
      have hlt : step.source < step.target := Nat.lt_succ_self step.source
      rcases Edit.applyAll_defines_cases accepts.edits hf with hlive | hbrings
      · rcases ih step.source hlt source hlive with hbase | ⟨other, hmem, hbefore, hbrings⟩
        · exact .inl hbase
        · exact .inr ⟨other, hmem, Nat.lt_trans hbefore hlt, hbrings⟩
      · exact .inr ⟨step, (mem_values_steps_iff h).1 mem, hlt, hbrings⟩
    | @gap step earlier found mem lt hfound between =>
      rcases ih earlier lt hfound hf with hbase | ⟨other, hmem, hbefore, hbrings⟩
      · exact .inl hbase
      · exact .inr ⟨other, hmem, Nat.lt_trans hbefore lt, hbrings⟩

end Registry

end Strata
