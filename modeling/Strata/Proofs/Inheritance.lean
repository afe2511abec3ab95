import Strata.Proofs.Versions

/-!
# What later versions keep

An accepted edit keeps a schema well formed (`Edit.Reshapes.wellFormed`), and it neither drops an
entity nor changes a primary key (`Edit.Reshapes.lastsIn`). So every schema of a history over a
well-formed baseline is well formed, and the entities of each version last in all later ones with
the primary keys that they have (`Registry.wellFormed_and_lasting`).
-/

namespace Strata

namespace Schema

/-- Every entity of a schema is in another one too, with the primary key that it has. -/
def LastsIn (s later : Schema) : Prop :=
  ∀ name e, s.entity? name = some e → ∃ e', later.entity? name = some e' ∧
    ∀ pk, e.primaryKey? = some pk → e'.primaryKey? = some pk

theorem LastsIn.refl (s : Schema) : s.LastsIn s :=
  fun _ e he => ⟨e, he, fun _ hpk => hpk⟩

theorem LastsIn.trans {s t u : Schema} (hst : s.LastsIn t) (htu : t.LastsIn u) : s.LastsIn u := by
  intro name e he
  obtain ⟨e', he', hkey⟩ := hst name e he
  obtain ⟨e'', he'', hkey'⟩ := htu name e' he'
  exact ⟨e'', he'', fun pk hpk => hkey' pk (hkey pk hpk)⟩

/-- An entity may be put in the place of one whose primary key it has. -/
theorem lastsIn_put {s : Schema} {name : String} {e' : Entity}
    (hkey : ∀ e, s.entity? name = some e → ∀ pk, e.primaryKey? = some pk →
      e'.primaryKey? = some pk) : s.LastsIn (s.put name e') := by
  intro other e he
  rw [entity?_put]
  by_cases heq : name = other
  · subst heq
    rw [if_pos rfl]
    exact ⟨e', rfl, hkey e he⟩
  · rw [if_neg heq]
    exact ⟨e, he, fun _ hpk => hpk⟩

/-- An entity may be put into a well-formed schema under its own name, if it is well formed itself
and refers to what is there afterwards. -/
theorem WellFormed.put {s : Schema} (h : s.WellFormed) {name : String} {e : Entity}
    (hname : e.name = name) (hdistinct : e.fieldNames.Nodup)
    (honeKey : e.fields.countP (·.primaryKey) ≤ 1)
    (htargets : ∀ f ∈ e.fields, ∀ t, f.type.target? = some t →
      (s.put name e).hasEntity t = true) : (s.put name e).WellFormed := by
  -- Every other entity is as it was.
  have hcases : ∀ other e', (s.put name e).entity? other = some e' →
      (other = name ∧ e' = e) ∨ s.entity? other = some e' := by
    intro other e' he'
    rw [entity?_put] at he'
    by_cases heq : name = other
    · rw [if_pos heq] at he'
      exact .inl ⟨heq.symm, (Option.some.inj he').symm⟩
    · rw [if_neg heq] at he'
      exact .inr he'
  constructor
  · intro other e' he'
    rcases hcases other e' he' with ⟨rfl, rfl⟩ | hold
    · exact hname
    · exact h.named other e' hold
  · intro other e' he'
    rcases hcases other e' he' with ⟨rfl, rfl⟩ | hold
    · exact hdistinct
    · exact h.distinct other e' hold
  · intro other e' he'
    rcases hcases other e' he' with ⟨rfl, rfl⟩ | hold
    · exact honeKey
    · exact h.oneKey other e' hold
  · intro other e' he' f hf t ht
    rcases hcases other e' he' with ⟨rfl, rfl⟩ | hold
    · exact htargets f hf t ht
    · exact hasEntity_put (h.targets other e' hold f hf t ht)

end Schema

/-- An entity without a primary key has no field that is one. -/
theorem Entity.countP_primaryKey_eq_zero {e : Entity} (h : e.isKeyed = false) :
    e.fields.countP (·.primaryKey) = 0 := by
  unfold isKeyed primaryKey? at h
  rw [Option.isSome_eq_false_iff, Option.isNone_iff_eq_none, List.find?_eq_none] at h
  exact List.countP_eq_zero.2 h

namespace Edit

variable {cleared : List String} {schema schema' : Schema} {version : Nat} {edit : Edit}
  {e old : Entity}

/-! ## One edit -/

/-- The entity that an accepted edit puts has the primary key of the entity that was there. -/
theorem Reshapes.primaryKey? (hr : Reshapes cleared schema edit e)
    (hold : schema.entity? edit.entity = some old) {pk : Field} (hpk : old.primaryKey? = some pk) :
    e.primaryKey? = some pk := by
  cases hr with
  | @added _ name e f isAdd hold' hnew htarget hprimary hplain =>
    have hname := entity_eq_of_isAdd isAdd
    rw [hname, hold'] at hold
    cases hold
    -- A second primary key would have been refused.
    have hplainField : f.primaryKey = false := by
      cases hf : f.primaryKey with
      | true =>
        have hkeyed := (hprimary hf).1
        unfold Entity.isKeyed at hkeyed
        rw [hpk] at hkeyed
        cases hkeyed
      | false => rfl
    rw [Entity.primaryKey?_addField hplainField]
    exact hpk
  | removed hold' hfound hnotKey =>
    have hsame := hold'.symm.trans hold
    cases hsame
    rw [Entity.primaryKey?_removeField hfound hnotKey]
    exact hpk
  | created habsent =>
    have hhas := Schema.hasEntity_of_entity? hold
    exact absurd hhas (Bool.eq_false_iff.1 habsent)

/-- An accepted edit drops no entity and changes no primary key. -/
theorem Reshapes.lastsIn (hr : Reshapes cleared schema edit e) :
    schema.LastsIn (schema.put edit.entity e) :=
  Schema.lastsIn_put fun _ hold _ hpk => hr.primaryKey? hold hpk

/-- The entity that an accepted edit puts is stored under its own name. -/
theorem Reshapes.name_eq (hr : Reshapes cleared schema edit e) (hs : schema.WellFormed) :
    e.name = edit.entity := by
  cases hr with
  | added isAdd hold =>
    have hname := hs.named _ _ hold
    exact hname.trans (entity_eq_of_isAdd isAdd).symm
  | removed hold =>
    have hname := hs.named _ _ hold
    exact hname
  | created => rfl

/-- The entity that an accepted edit puts has at most one primary key. -/
theorem Reshapes.oneKey (hr : Reshapes cleared schema edit e) (hs : schema.WellFormed) :
    e.fields.countP (·.primaryKey) ≤ 1 := by
  cases hr with
  | @added _ name e f isAdd hold hnew htarget hprimary hplain =>
    have hcount : (e.addField f).fields.countP (·.primaryKey) =
        e.fields.countP (·.primaryKey) + if f.primaryKey = true then 1 else 0 := by
      unfold Entity.addField
      rw [List.countP_append, List.countP_singleton]
    rw [hcount]
    by_cases hf : f.primaryKey = true
    · -- A primary key is only added where there is none.
      have hnone := Entity.countP_primaryKey_eq_zero (hprimary hf).1
      rw [if_pos hf]
      omega
    · rw [if_neg hf]
      exact hs.oneKey _ _ hold
  | removed hold =>
    exact Nat.le_trans List.eraseP_sublist.countP_le (hs.oneKey _ _ hold)
  | created _ _ _ _ honeKey => exact honeKey

/-- The entity that an accepted edit puts refers to entities that are there afterwards. -/
theorem Reshapes.targets (hr : Reshapes cleared schema edit e) (hs : schema.WellFormed) :
    ∀ f ∈ e.fields, ∀ t, f.type.target? = some t →
      (schema.put edit.entity e).hasEntity t = true := by
  -- An entity may refer to itself, whether it was there before or not.
  have hself : (schema.put edit.entity e).hasEntity edit.entity = true := by
    rw [Schema.hasEntity_eq_isSome, Schema.entity?_put, if_pos rfl]
    rfl
  cases hr with
  | @added _ name e f isAdd hold hnew htarget hprimary hplain =>
    have hname := entity_eq_of_isAdd isAdd
    intro g hg t ht
    rcases Entity.mem_fields_addField.1 hg with hg | rfl
    · exact Schema.hasEntity_put (hs.targets name e hold g hg t ht)
    · rcases htarget t ht with rfl | hhas
      · exact hname ▸ hself
      · exact Schema.hasEntity_put hhas
  | removed hold =>
    intro g hg t ht
    exact Schema.hasEntity_put (hs.targets _ _ hold g (List.mem_of_mem_eraseP hg) t ht)
  | created _ _ htargets =>
    intro g hg t ht
    rcases htargets g hg t ht with rfl | hhas
    · exact hself
    · exact Schema.hasEntity_put hhas

/-- An accepted edit keeps a schema well formed. -/
theorem Reshapes.wellFormed (hr : Reshapes cleared schema edit e) (hs : schema.WellFormed) :
    (schema.put edit.entity e).WellFormed :=
  hs.put (hr.name_eq hs) (hr.distinct hs.distinct) (hr.oneKey hs) (hr.targets hs)

/-! ## Edits one after the other -/

/-- Accepted edits keep a schema well formed. -/
theorem applyAll_wellFormed {edits : List Edit}
    (h : applyAll edits schema cleared version = .ok schema') (hs : schema.WellFormed) :
    schema'.WellFormed := by
  refine foldlM_induct (fun _ s => s.WellFormed) (fun edit _ s s' hs hstep => ?_) hs h
  obtain ⟨e, hr, rfl⟩ := apply_eq_ok hstep
  exact hr.wellFormed hs

/-- Accepted edits drop no entity and change no primary key. -/
theorem applyAll_lastsIn {edits : List Edit}
    (h : applyAll edits schema cleared version = .ok schema') : schema.LastsIn schema' := by
  refine foldlM_induct (fun _ s => schema.LastsIn s) (fun edit _ s s' hs hstep => ?_)
    (Schema.LastsIn.refl schema) h
  obtain ⟨e, hr, rfl⟩ := apply_eq_ok hstep
  exact hs.trans hr.lastsIn

end Edit

namespace Registry

variable {baseline : Schema} {steps : List Step} {registry : Registry} {version later : Nat}
  {s t : Schema}

/-- Every schema of a history over a well-formed baseline is well formed. -/
theorem wellFormed_of_schemaAt? (h : build baseline steps = .ok registry)
    (hbase : baseline.WellFormed) (hs : registry.schemaAt? version = some s) : s.WellFormed := by
  refine schemaAt?_induct Schema.WellFormed h hbase (fun s version hs => ?_)
    (fun _ _ _ _ hs haccepts => Edit.applyAll_wellFormed haccepts.edits hs) hs
  -- Nothing that is well formed depends on the version.
  exact ⟨hs.named, hs.distinct, hs.oneKey, hs.targets⟩

/-- What the schema of a version has lasts in the schemas of all later versions. -/
theorem lastsIn_of_le (h : build baseline steps = .ok registry)
    (hs : registry.schemaAt? version = some s) (ht : registry.schemaAt? later = some t)
    (hle : version ≤ later) : s.LastsIn t := by
  induction later using Nat.strongRecOn generalizing t with
  | ind later ih =>
    rcases Nat.eq_or_lt_of_le hle with rfl | hlt
    · rw [hs] at ht
      cases ht
      exact Schema.LastsIn.refl s
    -- The later schema comes from one that is not before the version.
    cases schemaAt?_origin h ht with
    | baseline =>
      have hfirst := baseline_le_of_schemaAt? h hs
      omega
    | @step step live next _ source accepts =>
      have htarget : step.target = step.source + 1 := rfl
      have hlive : s.LastsIn live := ih step.source (by omega) source (by omega)
      have hedited : live.LastsIn next := Edit.applyAll_lastsIn accepts.edits
      exact hlive.trans hedited
    | @gap step earlier found _ lt hfound between =>
      have hbefore : version ≤ earlier := by
        by_contra hnot
        have hnone := between version (by omega) hlt
        have hsome : registry.schemas[version]? = some s := hs
        rw [hnone] at hsome
        cases hsome
      have hlasts : s.LastsIn found := ih earlier lt hfound hbefore
      exact hlasts

/-- **What a history keeps.** Every schema of a history over a well-formed baseline is well formed,
and every entity of a version is in all later versions, with the primary key that it has there. -/
theorem wellFormed_and_lasting (h : build baseline steps = .ok registry)
    (hbase : baseline.WellFormed) :
    (∀ version s, registry.schemaAt? version = some s → s.WellFormed) ∧
    registry.current.WellFormed ∧
    ∀ version later s t, registry.schemaAt? version = some s →
      registry.schemaAt? later = some t → version ≤ later →
      ∀ name e, s.entity? name = some e → ∃ e', t.entity? name = some e' ∧
        ∀ pk, e.primaryKey? = some pk → e'.primaryKey? = some pk :=
  ⟨fun _ _ hs => wellFormed_of_schemaAt? h hbase hs,
    wellFormed_of_schemaAt? h hbase (schemaAt?_current h),
    fun _ _ _ _ hs ht hle => lastsIn_of_le h hs ht hle⟩

/-- People are still known by their names when they have been given an age behind a gap. -/
theorem wellFormed_and_lasting_people :
    ∃ registry t e, build people backwards = .ok registry ∧ people.WellFormed ∧
      registry.schemaAt? 3 = some t ∧ t.WellFormed ∧ t.entity? "Person" = some e ∧
      e.primaryKey? = some (.primary "name" .str) ∧ e.hasField "age" = true := by
  obtain ⟨registry, t, hbuild, hs, ht, hage⟩ :
      ∃ registry t, build people backwards = .ok registry ∧
        registry.schemaAt? 0 = some people ∧ registry.schemaAt? 3 = some t ∧
        (t.entity? "Person").any (·.hasField "age") = true := ⟨_, _, rfl, rfl, rfl, rfl⟩
  obtain ⟨hwell, -, hlasting⟩ := wellFormed_and_lasting hbuild people_wellFormed
  have hperson : people.entity? "Person" = some ⟨"Person", [.primary "name" .str]⟩ := rfl
  obtain ⟨e, he, hkey⟩ := hlasting 0 3 people t hs ht (by decide) "Person" _ hperson
  rw [he] at hage
  exact ⟨registry, t, e, hbuild, people_wellFormed, ht, hwell 3 t ht, he, hkey _ rfl, hage⟩

end Registry

end Strata
