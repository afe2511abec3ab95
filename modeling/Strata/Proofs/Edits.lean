import Strata.Proofs.Fit
import Strata.Proofs.Outcomes
import Mathlib.Data.List.Nodup

/-!
# Edits of schemas and of records

`Edit.Reshapes` says everything that an accepted edit can do to a schema: it puts one entity in the
place of the entity of that name, and `apply_eq_ok` is the inversion that every later proof about
edits goes through. From it come the two facts that histories rest on: an edit keeps field names
distinct (`Edit.Reshapes.distinctFields`), and an edit of the schema is matched by the edit of the
records (`Edit.Reshapes.fits`), so that records that fit before fit after.
-/

namespace Strata

namespace Schema

/-- The schema with an entity under a name. -/
def put (s : Schema) (name : String) (e : Entity) : Schema :=
  { s with entities := s.entities.insert name e }

/-- Putting an entity changes that name and no other. -/
theorem entity?_put (s : Schema) (name other : String) (e : Entity) :
    (s.put name e).entity? other = if name = other then some e else s.entity? other := by
  simp only [entity?, put, Std.ExtTreeMap.getElem?_insert, Std.LawfulEqCmp.compare_eq_iff_eq]

/-- An entity exists exactly when it is found. -/
theorem hasEntity_eq_isSome (s : Schema) (name : String) :
    s.hasEntity name = (s.entity? name).isSome := by
  unfold hasEntity entity?
  rw [Std.ExtTreeMap.isSome_getElem?_eq_contains]

/-- An entity that is found exists. -/
theorem hasEntity_of_entity? {s : Schema} {name : String} {e : Entity}
    (h : s.entity? name = some e) : s.hasEntity name = true := by
  rw [hasEntity_eq_isSome, h]
  rfl

/-- An entity that exists is found. -/
theorem exists_entity? {s : Schema} {name : String} (h : s.hasEntity name = true) :
    ∃ e, s.entity? name = some e := by
  rw [hasEntity_eq_isSome] at h
  exact Option.isSome_iff_exists.1 h

/-- Entities are not lost when one is put. -/
theorem hasEntity_put {s : Schema} {name other : String} {e : Entity}
    (h : s.hasEntity other = true) : (s.put name e).hasEntity other = true := by
  rw [hasEntity_eq_isSome, entity?_put]
  split
  · rfl
  · rwa [← hasEntity_eq_isSome]

/-- The entities of a schema are stored under their own names, with distinct field names, at most
one primary key, and references to entities that exist. -/
structure WellFormed (s : Schema) : Prop where
  /-- Every entity is stored under its own name. -/
  named : ∀ name e, s.entity? name = some e → e.name = name
  /-- No entity has two fields of one name. -/
  distinct : ∀ name e, s.entity? name = some e → e.fieldNames.Nodup
  /-- No entity has two primary keys. -/
  oneKey : ∀ name e, s.entity? name = some e → e.fields.countP (·.primaryKey) ≤ 1
  /-- Every entity that is referred to exists. -/
  targets : ∀ name e, s.entity? name = some e → ∀ f ∈ e.fields, ∀ target,
    f.type.target? = some target → s.hasEntity target = true

/-- No entity of a schema has two fields of one name. -/
def DistinctFields (s : Schema) : Prop := ∀ name e, s.entity? name = some e → e.fieldNames.Nodup

/-- Entities added to a schema are found under their own names. -/
theorem entity?_foldl_withEntity {entities : List Entity} {s : Schema} {name : String} {e : Entity}
    (h : (entities.foldl withEntity s).entity? name = some e) :
    e ∈ entities ∧ e.name = name ∨ s.entity? name = some e := by
  induction entities generalizing s with
  | nil => exact .inr h
  | cons first rest ih =>
    rcases ih h with ⟨hmem, hname⟩ | h
    · exact .inl ⟨List.mem_cons_of_mem first hmem, hname⟩
    · have hput : (s.withEntity first).entity? name =
          if first.name = name then some first else s.entity? name :=
        entity?_put s first.name name first
      rw [hput] at h
      split at h
      · next hname =>
        cases h
        exact .inl ⟨List.mem_cons_self, hname⟩
      · exact .inr h

/-- The entities of a list are found in its schema under their own names. -/
theorem mem_of_entity?_ofList {version : Nat} {entities : List Entity} {name : String} {e : Entity}
    (h : (ofList version entities).entity? name = some e) : e ∈ entities ∧ e.name = name := by
  rcases entity?_foldl_withEntity h with h | h
  · exact h
  · simp [empty, entity?] at h

/-- Every entity of a list is in its schema. -/
theorem hasEntity_ofList {version : Nat} {entities : List Entity} {e : Entity}
    (h : e ∈ entities) : (ofList version entities).hasEntity e.name = true := by
  have hkept : ∀ (rest : List Entity) (s : Schema) name, s.hasEntity name = true →
      (rest.foldl withEntity s).hasEntity name = true := by
    intro rest
    induction rest with
    | nil => exact fun _ _ h => h
    | cons first rest ih => exact fun s name h => ih _ name (hasEntity_put h)
  obtain ⟨before, after, rfl⟩ := List.append_of_mem h
  unfold ofList
  rw [List.foldl_append, List.foldl_cons]
  refine hkept after _ _ ?_
  unfold withEntity hasEntity
  exact Std.ExtTreeMap.contains_insert_self

/-- The schema of a list of well-formed entities that refer to each other is well formed. -/
theorem wellFormed_ofList {version : Nat} {entities : List Entity}
    (hdistinct : ∀ e ∈ entities, e.fieldNames.Nodup)
    (honeKey : ∀ e ∈ entities, e.fields.countP (·.primaryKey) ≤ 1)
    (htargets : ∀ e ∈ entities, ∀ f ∈ e.fields, ∀ target ∈ f.type.target?,
      ∃ other ∈ entities, other.name = target) : (ofList version entities).WellFormed := by
  refine ⟨fun name e h => ?_, fun name e h => ?_, fun name e h => ?_, fun name e h f hf t ht => ?_⟩
  · exact (mem_of_entity?_ofList h).2
  · exact hdistinct e (mem_of_entity?_ofList h).1
  · exact honeKey e (mem_of_entity?_ofList h).1
  · obtain ⟨other, hother, rfl⟩ := htargets e (mem_of_entity?_ofList h).1 f hf t ht
    exact hasEntity_ofList hother

end Schema

namespace Edit

/-- What an accepted edit puts in the place of the entity it names. -/
inductive Reshapes (cleared : List String) (schema : Schema) : Edit → Entity → Prop
  /-- A field is added, with a value for existing records unless it is the primary key. -/
  | added {edit : Edit} {name : String} {e : Entity} {f : Field}
      (isAdd : edit = .addField name f ∨ edit = .addReference name f)
      (old : schema.entity? name = some e)
      (new : e.hasField f.name = false)
      (target : ∀ t, f.type.target? = some t → t = name ∨ schema.hasEntity t = true)
      (primary : f.primaryKey = true → e.isKeyed = false ∧ name ∈ cleared)
      (plain : f.primaryKey = false →
        ∃ value, f.effectiveDefault? = some value ∧ f.admits value = true) :
      Reshapes cleared schema edit (e.addField f)
  /-- A field is removed that is no primary key. -/
  | removed {name field : String} {e : Entity} {f : Field}
      (old : schema.entity? name = some e)
      (found : e.field? field = some f)
      (notKey : f.primaryKey = false) :
      Reshapes cleared schema (.removeField name field) (e.removeField field)
  /-- An entity is created that did not exist. -/
  | created {e : Entity}
      (absent : schema.hasEntity e.name = false)
      (distinct : e.fieldNames.Nodup)
      (targets : ∀ f ∈ e.fields, ∀ t, f.type.target? = some t →
        t = e.name ∨ schema.hasEntity t = true)
      (keyType : ∀ f ∈ e.fields, f.primaryKey = true → f.type.target? = none)
      (oneKey : e.fields.countP (·.primaryKey) ≤ 1) :
      Reshapes cleared schema (.createTable e) e

/-- An edit that adds a field is of the entity that the field is added to. -/
theorem entity_eq_of_isAdd {edit : Edit} {name : String} {f : Field}
    (h : edit = .addField name f ∨ edit = .addReference name f) : edit.entity = name := by
  rcases h with rfl | rfl <;> rfl

variable {cleared : List String} {schema schema' : Schema} {version : Nat}

/-- A field passes the check of its target exactly when the target exists or is the owner. -/
theorem checkTarget_eq_ok_iff {owner : String} {f : Field} :
    checkTarget schema owner f version = .ok () ↔
      ∀ t, f.type.target? = some t → t = owner ∨ schema.hasEntity t = true := by
  unfold checkTarget
  cases f.type.target? with
  | none => simp
  | some t =>
    by_cases h : t = owner <;> cases hs : schema.hasEntity t <;> simp [h, hs]

/-- A primary key passes the check exactly when the entity has none and its records go. -/
theorem checkPrimaryKey_eq_ok_iff {e : Entity} {name : String} {f : Field} :
    checkPrimaryKey e name f cleared version = .ok () ↔
      e.isKeyed = false ∧ name ∈ cleared := by
  unfold checkPrimaryKey
  cases e.isKeyed <;> by_cases h : name ∈ cleared <;> simp [h]

/-- A default passes the check exactly when there is one that the field admits. -/
theorem checkDefault_eq_ok_iff {name : String} {f : Field} :
    checkDefault name f version = .ok () ↔
      ∃ value, f.effectiveDefault? = some value ∧ f.admits value = true := by
  unfold checkDefault
  cases f.effectiveDefault? with
  | none => simp
  | some value =>
    cases ha : f.admits value <;> cases hn : value.isNull <;> simp [ha, hn]

/-- What an accepted addition of a field has found. -/
theorem insertField_eq_ok {name : String} {f : Field}
    (h : insertField schema name f cleared version = .ok schema') :
    ∃ e, schema.entity? name = some e ∧ e.hasField f.name = false ∧
      (f.primaryKey = true → e.isKeyed = false ∧ name ∈ cleared) ∧
      (f.primaryKey = false →
        ∃ value, f.effectiveDefault? = some value ∧ f.admits value = true) ∧
      schema' = schema.put name (e.addField f) := by
  unfold insertField at h
  cases he : schema.entity? name with
  | none =>
    rw [he] at h
    cases h
  | some e =>
    rw [he] at h
    dsimp only at h
    cases hf : e.hasField f.name with
    | true =>
      rw [hf, if_pos rfl] at h
      cases h
    | false =>
      rw [hf, if_neg Bool.false_ne_true] at h
      cases hpk : f.primaryKey with
      | true =>
        rw [hpk, if_pos rfl, bind_eq_ok_iff] at h
        obtain ⟨⟨⟩, hcheck, hput⟩ := h
        cases hput
        exact ⟨e, rfl, hf, fun _ => checkPrimaryKey_eq_ok_iff.1 hcheck, fun h => (by cases h), rfl⟩
      | false =>
        rw [hpk, if_neg Bool.false_ne_true, bind_eq_ok_iff] at h
        obtain ⟨⟨⟩, hcheck, hput⟩ := h
        cases hput
        exact ⟨e, rfl, hf, fun h => (by cases h), fun _ => checkDefault_eq_ok_iff.1 hcheck, rfl⟩

/-- What an accepted removal of a field has found. -/
theorem dropField_eq_ok {name field : String}
    (h : dropField schema name field version = .ok schema') :
    ∃ e f, schema.entity? name = some e ∧ e.field? field = some f ∧ f.primaryKey = false ∧
      schema' = schema.put name (e.removeField field) := by
  unfold dropField at h
  cases he : schema.entity? name with
  | none =>
    rw [he] at h
    cases h
  | some e =>
    rw [he] at h
    dsimp only at h
    cases hf : e.field? field with
    | none =>
      rw [hf] at h
      cases h
    | some f =>
      rw [hf] at h
      dsimp only at h
      cases hpk : f.primaryKey with
      | true =>
        rw [hpk, if_pos rfl] at h
        cases h
      | false =>
        rw [hpk, if_neg Bool.false_ne_true] at h
        cases h
        exact ⟨e, f, rfl, hf, hpk, rfl⟩

/-- Fields pass the check of a new entity exactly when their names are distinct and not taken, no
primary key is a reference, and their targets exist. -/
theorem checkFields_eq_ok {owner : String} {seen : List String} {fields : List Field}
    (h : checkFields schema owner version seen fields = .ok ()) :
    (fields.map (·.name)).Nodup ∧ (∀ f ∈ fields, f.name ∉ seen) ∧
      (∀ f ∈ fields, f.primaryKey = true → f.type.target? = none) ∧
      ∀ f ∈ fields, ∀ t, f.type.target? = some t → t = owner ∨ schema.hasEntity t = true := by
  induction fields generalizing seen with
  | nil => simp
  | cons f rest ih =>
    unfold checkFields at h
    by_cases hseen : seen.contains f.name = true
    · rw [if_pos hseen] at h
      cases h
    rw [if_neg hseen] at h
    by_cases hkey : (f.primaryKey && f.type.target?.isSome) = true
    · rw [if_pos hkey] at h
      cases h
    rw [if_neg hkey, bind_eq_ok_iff] at h
    obtain ⟨⟨⟩, htarget, hrest⟩ := h
    obtain ⟨hnodup, hnew, hkeys, htargets⟩ := ih hrest
    refine ⟨?_, ?_, ?_, ?_⟩
    · rw [List.map_cons, List.nodup_cons]
      refine ⟨fun hmem => ?_, hnodup⟩
      obtain ⟨g, hg, hgn⟩ := List.mem_map.1 hmem
      exact hnew g hg (hgn ▸ List.mem_cons_self)
    · intro g hg
      rcases List.mem_cons.1 hg with rfl | hg
      · simpa using hseen
      · exact fun hmem => hnew g hg (List.mem_cons_of_mem f.name hmem)
    · intro g hg hpk
      rcases List.mem_cons.1 hg with rfl | hg
      · simpa [hpk] using hkey
      · exact hkeys g hg hpk
    · intro g hg
      rcases List.mem_cons.1 hg with rfl | hg
      · exact checkTarget_eq_ok_iff.1 htarget
      · exact htargets g hg

/-- What an accepted creation of an entity has found. -/
theorem insertTable_eq_ok (cleared : List String) {e : Entity}
    (h : insertTable schema e version = .ok schema') :
    Reshapes cleared schema (.createTable e) e ∧ schema' = schema.put e.name e := by
  unfold insertTable at h
  by_cases hhas : schema.hasEntity e.name = true
  · rw [if_pos hhas] at h
    cases h
  rw [if_neg hhas, bind_eq_ok_iff] at h
  obtain ⟨⟨⟩, hfields, hput⟩ := h
  by_cases hkeys : 1 < e.fields.countP (·.primaryKey)
  · rw [if_pos hkeys] at hput
    cases hput
  rw [if_neg hkeys] at hput
  cases hput
  obtain ⟨hnodup, -, hkeyType, htargets⟩ := checkFields_eq_ok hfields
  exact ⟨.created (Bool.eq_false_iff.2 hhas) hnodup htargets hkeyType (Nat.le_of_not_lt hkeys), rfl⟩

/-- An accepted edit puts an entity in the place of the one it names, and does nothing else. -/
theorem apply_eq_ok {edit : Edit} (h : edit.apply schema cleared version = .ok schema') :
    ∃ e, Reshapes cleared schema edit e ∧ schema' = schema.put edit.entity e := by
  cases edit with
  | addField name f =>
    obtain ⟨⟨⟩, htarget, hinsert⟩ := bind_eq_ok_iff.1 h
    obtain ⟨e, he, hnew, hpk, hplain, rfl⟩ := insertField_eq_ok hinsert
    exact ⟨_, .added (.inl rfl) he hnew (checkTarget_eq_ok_iff.1 htarget) hpk hplain, rfl⟩
  | removeField name field =>
    obtain ⟨e, f, he, hf, hpk, rfl⟩ := dropField_eq_ok h
    exact ⟨_, .removed he hf hpk, rfl⟩
  | createTable e =>
    obtain ⟨hr, hput⟩ := insertTable_eq_ok cleared h
    exact ⟨e, hr, hput⟩
  | addReference name f =>
    unfold apply at h
    dsimp only at h
    split at h
    · cases h
    · obtain ⟨⟨⟩, htarget, hinsert⟩ := bind_eq_ok_iff.1 h
      obtain ⟨e, he, hnew, hpk, hplain, rfl⟩ := insertField_eq_ok hinsert
      exact ⟨_, .added (.inr rfl) he hnew (checkTarget_eq_ok_iff.1 htarget) hpk hplain, rfl⟩

/-! ## One edit -/

variable {edit : Edit} {e old : Entity}

/-- The names of an entity with one more field are distinct if the field is new. -/
theorem nodup_fieldNames_addField {f : Field} (h : e.fieldNames.Nodup)
    (hf : e.hasField f.name = false) : (e.addField f).fieldNames.Nodup := by
  unfold Entity.fieldNames Entity.addField at *
  rw [List.map_append, List.nodup_append]
  refine ⟨h, List.nodup_singleton _, fun name hname other hother => ?_⟩
  obtain ⟨g, hg, rfl⟩ := List.mem_map.1 hname
  rw [List.map_singleton, List.mem_singleton] at hother
  rw [hother]
  exact Ne.symm (Entity.ne_name_of_hasField_eq_false hf hg)

/-- The entity that an accepted edit puts has distinct field names. -/
theorem Reshapes.distinct (hr : Reshapes cleared schema edit e) (hs : schema.DistinctFields) :
    e.fieldNames.Nodup := by
  cases hr with
  | added _ hold hnew => exact nodup_fieldNames_addField (hs _ _ hold) hnew
  | removed hold =>
    exact (hs _ _ hold).sublist (List.Sublist.map _ List.eraseP_sublist)
  | created _ hdistinct => exact hdistinct

/-- An accepted edit keeps field names distinct. -/
theorem Reshapes.distinctFields (hr : Reshapes cleared schema edit e)
    (hs : schema.DistinctFields) : (schema.put edit.entity e).DistinctFields := by
  intro name e' he'
  rw [Schema.entity?_put] at he'
  split at he'
  · cases he'
    exact hr.distinct hs
  · exact hs name e' he'

/-- The edit of an entity is matched by the edit of its records: a record that fits the old entity
fits the new one after the edit. -/
theorem Reshapes.fits (hr : Reshapes cleared schema edit e) (hs : schema.DistinctFields)
    (hkept : edit.entity ∉ cleared) (hold : schema.entity? edit.entity = some old) {r : Record}
    (hfit : old.Fits r) : e.Fits (edit.applyToRecord r) := by
  cases hr with
  | @added _ name e f isAdd hold' hnew htarget hprimary hplain =>
    have hname := entity_eq_of_isAdd isAdd
    rw [hname, hold'] at hold
    cases hold
    -- A primary key is only ever added to a cleared table.
    have hpk : f.primaryKey = false := by
      cases hpk : f.primaryKey with
      | true => exact absurd (hname ▸ (hprimary hpk).2) hkept
      | false => rfl
    obtain ⟨value, hvalue, hadmits⟩ := hplain hpk
    have hrecord : edit.applyToRecord r = r.set f.name value := by
      rcases isAdd with rfl | rfl <;> simp only [Edit.applyToRecord, hvalue]
    rw [hrecord]
    exact hfit.addField hnew hpk hadmits
  | removed hold' hfound hnotKey =>
    have hsame := hold'.symm.trans hold
    cases hsame
    exact hfit.removeField (hs _ _ hold') hfound hnotKey
  | created habsent =>
    have hhas := Schema.hasEntity_of_entity? hold
    exact absurd hhas (Bool.eq_false_iff.1 habsent)

/-- An edit that is no creation finds its entity. -/
theorem Reshapes.hasEntity (hr : Reshapes cleared schema edit e)
    (htouch : edit.touchesRecords = true) : schema.hasEntity edit.entity = true := by
  cases hr with
  | added isAdd hold =>
    rw [entity_eq_of_isAdd isAdd]
    exact Schema.hasEntity_of_entity? hold
  | removed hold => exact Schema.hasEntity_of_entity? hold
  | created => cases htouch

/-- An edit that leaves records alone names an entity that did not exist. -/
theorem Reshapes.absent (hr : Reshapes cleared schema edit e)
    (htouch : edit.touchesRecords = false) : schema.entity? edit.entity = none := by
  cases hr with
  | added isAdd => rcases isAdd with rfl | rfl <;> cases htouch
  | removed => cases htouch
  | created habsent =>
    rw [Schema.hasEntity_eq_isSome] at habsent
    exact Option.isSome_eq_false_iff.1 habsent |> Option.isNone_iff_eq_none.1

/-! ## Edits one after the other -/

/-- A record of an entity after the edits of that entity, in order. -/
def applyAllToRecord (edits : List Edit) (name : String) (r : Record) : Record :=
  (edits.filter fun edit => edit.entity == name).foldl (fun r edit => edit.applyToRecord r) r

/-- Accepted edits keep field names distinct. -/
theorem applyAll_distinctFields {edits : List Edit}
    (h : applyAll edits schema cleared version = .ok schema') (hs : schema.DistinctFields) :
    schema'.DistinctFields := by
  refine foldlM_induct (fun _ s => s.DistinctFields) (fun edit _ s s' hs hstep => ?_) hs h
  obtain ⟨e, hr, rfl⟩ := apply_eq_ok hstep
  exact hr.distinctFields hs

/-- Accepted edits lose no entity. -/
theorem applyAll_hasEntity {edits : List Edit}
    (h : applyAll edits schema cleared version = .ok schema') {name : String}
    (hname : schema.hasEntity name = true) : schema'.hasEntity name = true := by
  refine foldlM_induct (fun _ s => s.hasEntity name = true) (fun edit _ s s' hs hstep => ?_) hname h
  obtain ⟨e, -, rfl⟩ := apply_eq_ok hstep
  exact Schema.hasEntity_put hs

/-- Accepted edits keep the version of the schema. -/
theorem applyAll_version {edits : List Edit}
    (h : applyAll edits schema cleared version = .ok schema') :
    schema'.version = schema.version := by
  refine foldlM_induct (fun _ s => s.version = schema.version) (fun edit _ s s' hs hstep => ?_)
    rfl h
  obtain ⟨e, -, rfl⟩ := apply_eq_ok hstep
  exact hs

/-- Every entity that accepted edits name exists after them. -/
theorem applyAll_hasEntity_of_mem {edits : List Edit}
    (h : applyAll edits schema cleared version = .ok schema') {edit : Edit} (hmem : edit ∈ edits) :
    schema'.hasEntity edit.entity = true := by
  refine foldlM_induct (fun rest s => edit ∉ rest → s.hasEntity edit.entity = true) ?_
    (fun hnot => absurd hmem hnot) h List.not_mem_nil
  intro edit' rest s s' hs hstep hrest
  obtain ⟨e, -, rfl⟩ := apply_eq_ok hstep
  by_cases heq : edit = edit'
  · subst heq
    rw [Schema.hasEntity_eq_isSome, Schema.entity?_put, if_pos rfl]
    rfl
  · refine Schema.hasEntity_put (hs ?_)
    rw [List.mem_cons, not_or]
    exact ⟨heq, hrest⟩

/-- An entity that accepted edits create was not there before them. -/
theorem applyAll_absent_of_mem {edits : List Edit}
    (h : applyAll edits schema cleared version = .ok schema') {edit : Edit} (hmem : edit ∈ edits)
    (htouch : edit.touchesRecords = false) : schema.hasEntity edit.entity = false := by
  -- Up to its creation an entity that was there would have stayed.
  refine Bool.eq_false_iff.2 fun hhas => List.not_mem_nil (a := edit) ?_
  have hend : schema'.hasEntity edit.entity = true ∧ edit ∈ [] := by
    refine foldlM_induct (fun rest s => s.hasEntity edit.entity = true ∧ edit ∈ rest)
      (fun edit' rest s s' hs hstep => ?_) ⟨hhas, hmem⟩ h
    obtain ⟨e, hr, rfl⟩ := apply_eq_ok hstep
    refine ⟨Schema.hasEntity_put hs.1, ?_⟩
    rcases List.mem_cons.1 hs.2 with rfl | hrest
    · have hnone := hs.1
      rw [Schema.hasEntity_eq_isSome, hr.absent htouch] at hnone
      cases hnone
    · exact hrest
  exact hend.2

/-- An entity that no edit names the records of stays as it is. -/
theorem applyAll_entity?_of_untouched {edits : List Edit}
    (h : applyAll edits schema cleared version = .ok schema') {name : String} {e : Entity}
    (he : schema.entity? name = some e)
    (hnot : ∀ edit ∈ edits, edit.touchesRecords = true → edit.entity ≠ name) :
    schema'.entity? name = some e := by
  refine (foldlM_induct
    (fun rest s => (∀ edit ∈ rest, edit.touchesRecords = true → edit.entity ≠ name) ∧
      s.entity? name = some e) ?_ ⟨hnot, he⟩ h).2
  rintro edit rest s s' ⟨hnot, hs⟩ hstep
  obtain ⟨e', hr, rfl⟩ := apply_eq_ok hstep
  refine ⟨fun edit' hmem => hnot edit' (List.mem_cons_of_mem edit hmem), ?_⟩
  rw [Schema.entity?_put, if_neg, hs]
  rintro rfl
  cases htouch : edit.touchesRecords with
  | true => exact hnot edit List.mem_cons_self htouch rfl
  | false =>
    rw [hr.absent htouch] at hs
    cases hs

/-- Every name of the schema after accepted edits is an old one or that of a created entity. -/
theorem applyAll_names {edits : List Edit}
    (h : applyAll edits schema cleared version = .ok schema') (allowed : String → Prop)
    (hold : ∀ name, schema.hasEntity name = true → allowed name)
    (hcreated : ∀ e, createTable e ∈ edits → allowed e.name) :
    ∀ name, schema'.hasEntity name = true → allowed name := by
  refine (foldlM_induct
    (fun rest s => (∀ e, createTable e ∈ rest → allowed e.name) ∧
      ∀ name, s.hasEntity name = true → allowed name) ?_ ⟨hcreated, hold⟩ h).2
  rintro edit rest s s' ⟨hcreated, hs⟩ hstep
  obtain ⟨e', hr, rfl⟩ := apply_eq_ok hstep
  refine ⟨fun e hmem => hcreated e (List.mem_cons_of_mem edit hmem), fun name hname => ?_⟩
  rw [Schema.hasEntity_eq_isSome, Schema.entity?_put] at hname
  split at hname
  · next heq =>
    subst heq
    cases hr with
    | added isAdd hold' =>
      rcases isAdd with rfl | rfl <;> exact hs _ (Schema.hasEntity_of_entity? hold')
    | removed hold' => exact hs _ (Schema.hasEntity_of_entity? hold')
    | created => exact hcreated _ List.mem_cons_self
  · rw [← Schema.hasEntity_eq_isSome] at hname
    exact hs name hname

/-- The edits of the schema are matched by the edits of the records: a record that fits an entity
whose table is not cleared fits that entity after the edits. -/
theorem applyAll_fits {edits : List Edit}
    (h : applyAll edits schema cleared version = .ok schema') (hs : schema.DistinctFields)
    {name : String} (hkept : name ∉ cleared) (hold : schema.entity? name = some old) {r : Record}
    (hfit : old.Fits r) :
    ∃ e, schema'.entity? name = some e ∧ e.Fits (applyAllToRecord edits name r) := by
  induction edits generalizing schema old r with
  | nil =>
    cases h
    exact ⟨old, hold, hfit⟩
  | cons edit rest ih =>
    unfold applyAll at h
    rw [List.foldlM_cons, bind_eq_ok_iff] at h
    obtain ⟨s, hstep, hrest⟩ := h
    obtain ⟨e, hr, rfl⟩ := apply_eq_ok hstep
    have hs' := hr.distinctFields hs
    unfold applyAllToRecord
    rw [List.filter_cons]
    by_cases hname : edit.entity = name
    · subst hname
      rw [if_pos (beq_self_eq_true _), List.foldl_cons]
      refine ih hrest hs' ?_ (hr.fits hs hkept hold hfit)
      rw [Schema.entity?_put, if_pos rfl]
    · rw [if_neg (by simpa using hname)]
      refine ih hrest hs' ?_ hfit
      rw [Schema.entity?_put, if_neg hname]
      exact hold

end Edit

end Strata
