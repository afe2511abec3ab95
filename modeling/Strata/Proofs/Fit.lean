import Strata.Schema.Entity
import Mathlib.Data.List.Basic

/-!
# Records that fit their entity

`Entity.issues` lists what is wrong with a record. `Entity.Fits` says the same thing the other way
round: every defined field holds a value that it admits, no other field is present, and the key is
the one that the entity asks for. `fits_iff` ties the two together, and the rest of the module says
which changes of a record or of an entity keep a record fitting.
-/

namespace Strata

/-- A field is present exactly when it has a value. -/
theorem Record.has_eq_isSome (r : Record) (name : String) : r.has name = (r.get? name).isSome := by
  unfold Record.has Record.get?
  rw [Std.ExtTreeMap.isSome_getElem?_eq_contains]

namespace Entity

/-- A record fits an entity. -/
structure Fits (e : Entity) (r : Record) : Prop where
  /-- Every defined field holds a value that it admits. -/
  admitted : ∀ f ∈ e.fields, ∃ value, r.get? f.name = some value ∧ f.admits value = true
  /-- Every field of the record is defined. -/
  defined : ∀ name, r.has name = true → e.hasField name = true
  /-- The key is the one that the primary-key field repeats, or a row without such a field. -/
  key : e.keyFits r = true

/-- A field of a name is defined exactly when one of the fields has it. -/
theorem hasField_iff {e : Entity} {name : String} :
    e.hasField name = true ↔ ∃ f ∈ e.fields, f.name = name := by
  simp [hasField]

/-- A field is defined by its own name. -/
theorem hasField_of_mem {e : Entity} {f : Field} (h : f ∈ e.fields) : e.hasField f.name = true :=
  hasField_iff.2 ⟨f, h, rfl⟩

/-- A field has no issue exactly when it holds a value that it admits. -/
theorem fieldIssue?_eq_none_iff {r : Record} {f : Field} :
    fieldIssue? r f = none ↔ ∃ value, r.get? f.name = some value ∧ f.admits value = true := by
  unfold fieldIssue? Field.admits
  cases r.get? f.name with
  | none => simp
  | some value =>
    cases hnull : value.isNull <;> cases f.required <;> simp [hnull]

/-- A record fits an entity exactly when nothing is wrong with it. -/
theorem fits_iff {e : Entity} {r : Record} : e.Fits r ↔ e.issues r = [] := by
  have hfields : e.fields.filterMap (fieldIssue? r) = [] ↔
      ∀ f ∈ e.fields, ∃ value, r.get? f.name = some value ∧ f.admits value = true := by
    simp only [List.filterMap_eq_nil_iff, fieldIssue?_eq_none_iff]
  have hdefined : (r.fields.keys.filter fun name => !e.hasField name).map Issue.unknownField = [] ↔
      ∀ name, r.has name = true → e.hasField name = true := by
    simp [Record.has]
  have hkey : (if e.keyFits r then ([] : List Issue) else [.keyMismatch]) = [] ↔
      e.keyFits r = true := by
    cases e.keyFits r <;> simp
  unfold issues
  rw [List.append_eq_nil_iff, List.append_eq_nil_iff, hfields, hdefined, hkey]
  exact ⟨fun ⟨a, b, c⟩ => ⟨⟨a, b⟩, c⟩, fun ⟨⟨a, b⟩, c⟩ => ⟨a, b, c⟩⟩

/-- Whether a key fits is decided by the primary key of the entity, the key, and the value of the
primary-key field. -/
theorem keyFits_congr {e e' : Entity} {r r' : Record} (hp : e'.primaryKey? = e.primaryKey?)
    (hk : r'.key = r.key)
    (hv : ∀ pk, e.primaryKey? = some pk → r'.get? pk.name = r.get? pk.name) :
    e'.keyFits r' = e.keyFits r := by
  unfold keyFits
  rw [hp, hk]
  cases hpk : e.primaryKey? with
  | none => rfl
  | some pk =>
    dsimp only
    rw [hv pk hpk]

/-- With distinct names, a field is found by its name. -/
theorem field?_of_mem {e : Entity} (h : e.fieldNames.Nodup) {f : Field} (hf : f ∈ e.fields) :
    e.field? f.name = some f := by
  obtain ⟨name, fields⟩ := e
  unfold field?
  unfold fieldNames at h
  dsimp only at h hf ⊢
  induction fields with
  | nil => cases hf
  | cons g rest ih =>
    rw [List.map_cons, List.nodup_cons] at h
    rw [List.find?_cons]
    rcases List.mem_cons.1 hf with rfl | hf
    · rw [beq_self_eq_true]
    · have hne : g.name ≠ f.name := by
        intro heq
        exact h.1 (heq ▸ List.mem_map_of_mem hf)
      rw [beq_eq_false_iff_ne.2 hne]
      exact ih h.2 hf

/-! ## Changes of a record -/

/-- Setting a defined field to a value that it admits keeps a record fitting, as long as the field
is not the primary key. -/
theorem Fits.set {e : Entity} {r : Record} (h : e.Fits r) {name : String} {value : Value}
    (hdef : e.hasField name = true) (hval : ∀ f ∈ e.fields, f.name = name → f.admits value = true)
    (hpk : ∀ pk, e.primaryKey? = some pk → pk.name ≠ name) : e.Fits (r.set name value) := by
  refine ⟨fun f hf => ?_, fun other hother => ?_, ?_⟩
  · rw [Record.get?_set]
    split
    · exact ⟨value, rfl, hval f hf (by symm; assumption)⟩
    · exact h.admitted f hf
  · rw [Record.has_eq_isSome, Record.get?_set] at hother
    split at hother
    · next heq => exact heq ▸ hdef
    · exact h.defined other (by rw [Record.has_eq_isSome]; exact hother)
  · rw [← h.key]
    refine keyFits_congr rfl (Record.key_set r name value) fun pk hp => ?_
    rw [Record.get?_set, if_neg (Ne.symm (hpk pk hp))]

/-- With distinct names, setting the field of a name to a value that it admits keeps a record
fitting, as long as the field is not the primary key. -/
theorem Fits.setField {e : Entity} {r : Record} (h : e.Fits r) (hnames : e.fieldNames.Nodup)
    {name : String} {f : Field} {value : Value} (hf : e.field? name = some f)
    (hpk : f.primaryKey = false) (hval : f.admits value = true) : e.Fits (r.set name value) := by
  have hname : f.name = name := by simpa using List.find?_some hf
  refine h.set (hasField_iff.2 ⟨f, List.mem_of_find?_eq_some hf, hname⟩) ?_ ?_
  · rintro g hg rfl
    rw [field?_of_mem hnames hg] at hf
    cases hf
    exact hval
  · rintro pk hprimary rfl
    rw [field?_of_mem hnames (List.mem_of_find?_eq_some hprimary)] at hf
    cases hf
    rw [List.find?_some hprimary] at hpk
    cases hpk

/-- Filling a field sets that field if it is absent and there is a default, and no other. -/
theorem get?_fillField (r : Record) (f : Field) (name : String) :
    (fillField r f).get? name =
      (r.get? name).or (if f.name = name then f.effectiveDefault? else none) := by
  have hpresent : r.has f.name = (r.get? f.name).isSome := r.has_eq_isSome f.name
  unfold fillField
  rw [hpresent]
  split
  · next hsome =>
    split
    · next heq =>
      rw [← heq, Option.or_of_isSome hsome]
    · rw [Option.or_none]
  · next hnone =>
    rw [Option.not_isSome_iff_eq_none] at hnone
    cases f.effectiveDefault? with
    | none => rw [ite_self, Option.or_none]
    | some value =>
      dsimp only
      rw [Record.get?_set]
      split
      · next heq => rw [← heq, hnone, Option.none_or]
      · rw [Option.or_none]

/-- With distinct names, filling defaults sets every absent field that has one. -/
theorem get?_fillDefaults {e : Entity} (h : e.fieldNames.Nodup) (r : Record) (name : String) :
    (e.fillDefaults r).get? name =
      (r.get? name).or ((e.field? name).bind Field.effectiveDefault?) := by
  obtain ⟨entity, fields⟩ := e
  unfold fillDefaults field?
  unfold fieldNames at h
  dsimp only at h ⊢
  induction fields generalizing r with
  | nil => exact (Option.or_none).symm
  | cons f rest ih =>
    rw [List.map_cons, List.nodup_cons] at h
    rw [List.foldl_cons, ih _ h.2, get?_fillField, Option.or_assoc, List.find?_cons]
    by_cases heq : f.name = name
    · -- No later field has the name.
      have hlater : rest.find? (·.name == name) = none := by
        rw [List.find?_eq_none]
        intro g hg hname
        exact h.1 (heq ▸ beq_iff_eq.1 hname ▸ List.mem_map_of_mem hg)
      rw [if_pos heq, beq_iff_eq.2 heq, hlater]
      exact congrArg _ Option.or_none
    · rw [if_neg heq, beq_eq_false_iff_ne.2 heq, Option.none_or]

/-- Filling defaults keeps the key. -/
@[simp] theorem key_fillDefaults (e : Entity) (r : Record) : (e.fillDefaults r).key = r.key := by
  unfold fillDefaults
  induction e.fields generalizing r with
  | nil => rfl
  | cons f rest ih =>
    rw [List.foldl_cons, ih]
    unfold fillField
    split
    · rfl
    · split <;> rfl

/-! ## Changes of an entity -/

/-- The fields after one is added. -/
theorem mem_fields_addField {e : Entity} {f g : Field} :
    g ∈ (e.addField f).fields ↔ g ∈ e.fields ∨ g = f := by
  simp [addField]

/-- An added field that is no primary key leaves the primary key as it was. -/
theorem primaryKey?_addField {e : Entity} {f : Field} (h : f.primaryKey = false) :
    (e.addField f).primaryKey? = e.primaryKey? := by
  simp [primaryKey?, addField, List.find?_append, h]

/-- A field that is not defined has another name than every defined one. -/
theorem ne_name_of_hasField_eq_false {e : Entity} {name : String} (h : e.hasField name = false)
    {f : Field} (hf : f ∈ e.fields) : name ≠ f.name := by
  rintro rfl
  rw [hasField_of_mem hf] at h
  cases h

/-- A record that fits an entity fits it with one more field, once the field is set to a value that
it admits. -/
theorem Fits.addField {e : Entity} {r : Record} (h : e.Fits r) {f : Field} {value : Value}
    (hnew : e.hasField f.name = false) (hpk : f.primaryKey = false)
    (hval : f.admits value = true) : (e.addField f).Fits (r.set f.name value) := by
  refine ⟨fun g hg => ?_, fun other hother => ?_, ?_⟩
  · rw [Record.get?_set]
    rcases mem_fields_addField.1 hg with hg | rfl
    · rw [if_neg (ne_name_of_hasField_eq_false hnew hg)]
      exact h.admitted g hg
    · exact ⟨value, if_pos rfl, hval⟩
  · rw [Record.has_eq_isSome, Record.get?_set] at hother
    split at hother
    · next heq => exact heq ▸ hasField_of_mem (mem_fields_addField.2 (.inr rfl))
    · obtain ⟨g, hg, hgn⟩ := hasField_iff.1
        (h.defined other (by rw [Record.has_eq_isSome]; exact hother))
      exact hasField_iff.2 ⟨g, mem_fields_addField.2 (.inl hg), hgn⟩
  · rw [← h.key]
    refine keyFits_congr (primaryKey?_addField hpk) (Record.key_set r f.name value) fun pk hp => ?_
    rw [Record.get?_set,
      if_neg (ne_name_of_hasField_eq_false hnew (List.mem_of_find?_eq_some hp))]

/-- With distinct names, removing a name keeps exactly the fields of other names. -/
theorem mem_fields_removeField {e : Entity} (h : e.fieldNames.Nodup) {name : String} {g : Field} :
    g ∈ (e.removeField name).fields ↔ g ∈ e.fields ∧ g.name ≠ name := by
  obtain ⟨_, fields⟩ := e
  unfold removeField
  unfold fieldNames at h
  dsimp only at h ⊢
  induction fields with
  | nil => simp
  | cons f rest ih =>
    rw [List.map_cons, List.nodup_cons] at h
    rw [List.eraseP_cons]
    by_cases hf : f.name = name
    · have hrest : ∀ g ∈ rest, g.name ≠ name := by
        intro g hg hgn
        exact h.1 (hf.trans hgn.symm ▸ List.mem_map_of_mem hg)
      rw [hf, beq_self_eq_true, cond_true, List.mem_cons]
      constructor
      · intro hg
        exact ⟨.inr hg, hrest g hg⟩
      · rintro ⟨rfl | hg, hgn⟩
        · exact absurd hf hgn
        · exact hg
    · rw [beq_eq_false_iff_ne.2 hf, cond_false, List.mem_cons, List.mem_cons, ih h.2]
      constructor
      · rintro (rfl | ⟨hg, hgn⟩)
        · exact ⟨.inl rfl, hf⟩
        · exact ⟨.inr hg, hgn⟩
      · rintro ⟨rfl | hg, hgn⟩
        · exact .inl rfl
        · exact .inr ⟨hg, hgn⟩

/-- Removing a field that is no primary key leaves the primary key as it was. -/
theorem primaryKey?_removeField {e : Entity} {name : String} {f : Field}
    (hf : e.field? name = some f) (hpk : f.primaryKey = false) :
    (e.removeField name).primaryKey? = e.primaryKey? := by
  obtain ⟨_, fields⟩ := e
  unfold primaryKey? removeField
  unfold field? at hf
  dsimp only at hf ⊢
  induction fields with
  | nil => rfl
  | cons g rest ih =>
    rw [List.eraseP_cons]
    rw [List.find?_cons] at hf
    cases hg : g.name == name with
    | true =>
      rw [hg] at hf
      cases hf
      rw [cond_true, List.find?_cons, hpk]
    | false =>
      rw [hg] at hf
      rw [cond_false, List.find?_cons, List.find?_cons, ih hf]

/-- A record that fits an entity fits it without a field, once the record has lost the field too. -/
theorem Fits.removeField {e : Entity} {r : Record} (h : e.Fits r) (hnames : e.fieldNames.Nodup)
    {name : String} {f : Field} (hf : e.field? name = some f) (hpk : f.primaryKey = false) :
    (e.removeField name).Fits (r.remove name) := by
  have hfn : f.name = name := by simpa using List.find?_some hf
  refine ⟨fun g hg => ?_, fun other hother => ?_, ?_⟩
  · obtain ⟨hg, hgn⟩ := (mem_fields_removeField hnames).1 hg
    rw [Record.get?_remove, if_neg (Ne.symm hgn)]
    exact h.admitted g hg
  · rw [Record.has_eq_isSome, Record.get?_remove] at hother
    split at hother
    · cases hother
    · next hne =>
      obtain ⟨g, hg, hgn⟩ := hasField_iff.1
        (h.defined other (by rw [Record.has_eq_isSome]; exact hother))
      refine hasField_iff.2 ⟨g, (mem_fields_removeField hnames).2 ⟨hg, ?_⟩, hgn⟩
      rw [hgn]
      exact Ne.symm hne
  · rw [← h.key]
    refine keyFits_congr (primaryKey?_removeField hf hpk) (Record.key_remove r name) fun pk hp => ?_
    have hne : name ≠ pk.name := by
      -- The only field of the name would be the primary key itself.
      rintro rfl
      rw [field?_of_mem hnames (List.mem_of_find?_eq_some hp)] at hf
      cases hf
      rw [List.find?_some hp] at hpk
      cases hpk
    rw [Record.get?_remove, if_neg hne]

end Entity

end Strata
