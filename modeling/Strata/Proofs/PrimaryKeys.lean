import Strata.Proofs.Inheritance
import Strata.Proofs.Origins

/-!
# Primary keys that are references

The primary-key field repeats the key of its record, and a key is an integer, a text or a row
number. So no record fits an entity whose primary key is a reference
(`Entity.issues_ne_nil_of_reference_key`). A table is not created with such a key, but one that a
step empties may be given it, by either of the two edits that add a field. Over a baseline without
such keys that is the only way in which one comes into a schema, and from there on it stays
(`Registry.reference_key_iff_added`).
-/

namespace Strata

/-- A type that refers to records is a reference or a list of references. -/
theorem FieldType.eq_ref_or_refs {type : FieldType} (h : type.target? ≠ none) :
    ∃ entity, type = .ref entity ∨ type = .refs entity := by
  cases type with
  | ref entity => exact ⟨entity, .inl rfl⟩
  | refs entity => exact ⟨entity, .inr rfl⟩
  | int | str | bool | ints | strs => exact absurd rfl h

/-- A field that refers to records admits no value that repeats a key. -/
theorem Field.admits_eq_false_of_fieldValue? {f : Field} (href : f.type.target? ≠ none) {key : Key}
    {value : Value} (hvalue : key.fieldValue? = some value) : f.admits value = false := by
  obtain ⟨entity, htype⟩ := FieldType.eq_ref_or_refs href
  unfold admits
  -- The values that repeat keys are integers and texts.
  cases key <;> cases hvalue <;> rcases htype with htype | htype <;> rw [htype] <;> rfl

namespace Entity

variable {e : Entity} {f : Field}

/-- No record fits an entity whose primary key is a reference. -/
theorem issues_ne_nil_of_reference_key (hkey : e.primaryKey? = some f)
    (href : f.type.target? ≠ none) (r : Record) : e.issues r ≠ [] := by
  intro hnone
  have hfits : e.Fits r := fits_iff.2 hnone
  obtain ⟨value, hvalue, hadmits⟩ := hfits.admitted f (List.mem_of_find?_eq_some hkey)
  have hrepeats : r.key.fieldValue? = some value := by
    have hfit := hfits.key
    unfold keyFits at hfit
    rw [hkey] at hfit
    exact (beq_iff_eq.1 hfit).trans hvalue
  rw [Field.admits_eq_false_of_fieldValue? href hrepeats] at hadmits
  cases hadmits

/-- A primary key that is added to an entity without one is its primary key. -/
theorem primaryKey?_addField_of_key (hfree : e.isKeyed = false) (hkey : f.primaryKey = true) :
    (e.addField f).primaryKey? = some f := by
  unfold isKeyed at hfree
  rw [Option.isSome_eq_false_iff, Option.isNone_iff_eq_none] at hfree
  unfold primaryKey? at hfree ⊢
  unfold addField
  dsimp only
  rw [List.find?_append, hfree, Option.none_or, List.find?_cons_of_pos hkey]

end Entity

/-- Whether no primary key of a schema is a reference. -/
def Schema.NoReferenceKey (s : Schema) : Prop :=
  ∀ name f, s.Defines name f → f.primaryKey = true → f.type.target? = none

namespace Edit

variable {cleared : List String} {schema schema' : Schema} {version : Nat} {edit : Edit}
  {name : String} {e : Entity} {f : Field}

/-- A reference that an edit brings in as a primary key is added to a table that is emptied. -/
theorem Brings.of_reference_key (h : edit.Brings cleared name f) (hkey : f.primaryKey = true)
    (href : f.type.target? ≠ none) :
    name ∈ cleared ∧ (edit = .addField name f ∨ edit = .addReference name f) := by
  cases h with
  | added isAdd primary => exact ⟨primary hkey, isAdd⟩
  | created _ _ keyType => exact absurd (keyType hkey) href

/-- What an edit adds is one field of one entity. -/
theorem isAdd_inj {other : String} {g : Field}
    (hf : edit = .addField name f ∨ edit = .addReference name f)
    (hg : edit = .addField other g ∨ edit = .addReference other g) : other = name ∧ g = f := by
  rcases hf with rfl | rfl <;> rcases hg with heq | heq <;> cases heq <;> exact ⟨rfl, rfl⟩

/-- A primary key that an accepted edit adds is that of the entity that the edit puts. -/
theorem Reshapes.primaryKey?_of_isAdd (hr : Reshapes cleared schema edit e)
    (hadd : edit = .addField name f ∨ edit = .addReference name f) (hkey : f.primaryKey = true) :
    e.primaryKey? = some f := by
  cases hr with
  | added isAdd old new target primary plain =>
    obtain ⟨rfl, rfl⟩ := isAdd_inj hadd isAdd
    exact Entity.primaryKey?_addField_of_key (primary hkey).1 hkey
  | removed => rcases hadd with heq | heq <;> cases heq
  | created => rcases hadd with heq | heq <;> cases heq

/-- A primary key that is added by one of several accepted edits is there after them. -/
theorem applyAll_primaryKey?_of_mem {edits : List Edit}
    (h : applyAll edits schema cleared version = .ok schema') (hmem : edit ∈ edits)
    (hadd : edit = .addField name f ∨ edit = .addReference name f) (hkey : f.primaryKey = true) :
    ∃ e, schema'.entity? name = some e ∧ e.primaryKey? = some f := by
  induction edits generalizing schema with
  | nil => cases hmem
  | cons first rest ih =>
    unfold applyAll at h
    rw [List.foldlM_cons, bind_eq_ok_iff] at h
    obtain ⟨between, hfirst, hrest⟩ := h
    rcases List.mem_cons.1 hmem with rfl | hmem
    · obtain ⟨e, hr, rfl⟩ := apply_eq_ok hfirst
      have hput : (schema.put edit.entity e).entity? name = some e := by
        rw [Schema.entity?_put, if_pos (entity_eq_of_isAdd hadd)]
      -- The edits that follow change no primary key.
      obtain ⟨e', he', hlasts⟩ := applyAll_lastsIn hrest name e hput
      exact ⟨e', he', hlasts f (hr.primaryKey?_of_isAdd hadd hkey)⟩
    · exact ih hrest hmem

end Edit

namespace Registry

variable {baseline s : Schema} {steps : List Step} {registry : Registry} {version : Nat}
  {name : String} {f : Field} {step : Step} {edit : Edit}

/-- A primary key that a step adds is there at every later version. -/
theorem primaryKey?_of_added (h : build baseline steps = .ok registry) (hstep : step ∈ steps)
    (hedit : edit ∈ step.edits) (hadd : edit = .addField name f ∨ edit = .addReference name f)
    (hkey : f.primaryKey = true) (hs : registry.schemaAt? version = some s)
    (hlt : step.source < version) : ∃ e, s.entity? name = some e ∧ e.primaryKey? = some f := by
  obtain ⟨live, next, -, haccepts, hnext, -⟩ := exists_accepts_of_mem h hstep
  obtain ⟨e, he, hpk⟩ := Edit.applyAll_primaryKey?_of_mem haccepts.edits hedit hadd hkey
  obtain ⟨e', he', hlasts⟩ := lastsIn_of_le h hnext hs hlt name e he
  exact ⟨e', he', hlasts f hpk⟩

/-- **Where a reference is a primary key.** Over a baseline in which no primary key is a reference,
a schema of an accepted history has one exactly if a step before its version empties the table and
adds the reference to it as its primary key. No record fits the table from there on. -/
theorem reference_key_iff_added (h : build baseline steps = .ok registry)
    (hbase : baseline.NoReferenceKey) (hs : registry.schemaAt? version = some s)
    (hkey : f.primaryKey = true) (href : f.type.target? ≠ none) :
    (s.Defines name f ↔ ∃ step ∈ steps, step.source < version ∧ name ∈ step.clears ∧
      ∃ edit ∈ step.edits, edit = .addField name f ∨ edit = .addReference name f) ∧
    (s.Defines name f → ∃ e, s.entity? name = some e ∧ e.primaryKey? = some f ∧
      ∀ r, e.issues r ≠ []) := by
  have hadded : s.Defines name f → ∃ step ∈ steps, step.source < version ∧ name ∈ step.clears ∧
      ∃ edit ∈ step.edits, edit = .addField name f ∨ edit = .addReference name f := by
    intro hf
    rcases defines_origin h hs hf with hbaseline | ⟨step, hstep, hlt, edit, hedit, hbrings⟩
    · exact absurd (hbase name f hbaseline hkey) href
    · obtain ⟨hcleared, hadd⟩ := hbrings.of_reference_key hkey href
      exact ⟨step, hstep, hlt, hcleared, edit, hedit, hadd⟩
  refine ⟨⟨hadded, ?_⟩, fun hf => ?_⟩
  · rintro ⟨step, hstep, hlt, -, edit, hedit, hadd⟩
    obtain ⟨e, he, hpk⟩ := primaryKey?_of_added h hstep hedit hadd hkey hs hlt
    exact ⟨e, he, List.mem_of_find?_eq_some hpk⟩
  · obtain ⟨step, hstep, hlt, -, edit, hedit, hadd⟩ := hadded hf
    obtain ⟨e, he, hpk⟩ := primaryKey?_of_added h hstep hedit hadd hkey hs hlt
    exact ⟨e, he, hpk, Entity.issues_ne_nil_of_reference_key hpk href⟩

theorem people_noReferenceKey : people.NoReferenceKey := by
  rintro name f ⟨e, he, hf⟩ -
  have hmem := (Schema.mem_of_entity?_ofList he).1
  rw [List.mem_singleton] at hmem
  subst hmem
  rw [List.mem_singleton] at hf
  subst hf
  rfl

/-- The person who wrote a note, as the primary key of the note. -/
def author : Field := .primary "author" (.ref "Person")

/-- The people who may read a draft, as the primary key of the draft. -/
def readers : Field := .primary "readers" (.refs "Person")

/-- A history that creates tables of notes and of drafts and then keys both by people: one with each
of the edits that add a field. -/
def keyedByPeople : List Step :=
  [((Step.ofSource 0 "tables").createTable ⟨"Note", []⟩).createTable ⟨"Draft", []⟩,
    ((((Step.ofSource 1 "keys").clearTable "Note").clearTable "Draft").addField "Note"
      author).withEdit (.addReference "Draft" readers)]

/-- A table of drafts that is keyed by people, two steps after it has been created, holds no
record. -/
theorem reference_key_iff_added_readers :
    ∃ registry s e, build people keyedByPeople = .ok registry ∧ people.NoReferenceKey ∧
      registry.schemaAt? 2 = some s ∧ readers.primaryKey = true ∧ readers.type.target? ≠ none ∧
      s.entity? "Draft" = some e ∧ e.primaryKey? = some readers ∧ ∀ r, e.issues r ≠ [] := by
  obtain ⟨registry, s, hbuild, hs⟩ : ∃ registry s, build people keyedByPeople = .ok registry ∧
      registry.schemaAt? 2 = some s := ⟨_, _, rfl, rfl⟩
  have href : readers.type.target? ≠ none := nofun
  have hdefines : s.Defines "Draft" readers := by
    refine (reference_key_iff_added hbuild people_noReferenceKey hs rfl href).1.2
      ⟨_, List.mem_cons_of_mem _ List.mem_cons_self, by decide, by decide, ?_⟩
    exact ⟨_, List.mem_cons_of_mem _ List.mem_cons_self, .inr rfl⟩
  obtain ⟨e, he, hpk, hissues⟩ :=
    (reference_key_iff_added hbuild people_noReferenceKey hs rfl href).2 hdefines
  exact ⟨registry, s, e, hbuild, people_noReferenceKey, hs, rfl, href, he, hpk, hissues⟩

/-- Both edits that add a field make a reference the primary key of an emptied table, where the
creation of a table with such a key is refused. -/
theorem exists_reference_key :
    ∃ registry s note draft, build people keyedByPeople = .ok registry ∧ people.NoReferenceKey ∧
      registry.schemaAt? 2 = some s ∧
      s.entity? "Note" = some note ∧ note.primaryKey? = some author ∧
      author.type.target? = some "Person" ∧
      s.entity? "Draft" = some draft ∧ draft.primaryKey? = some readers ∧
      readers.type.target? = some "Person" ∧
      build people [(Step.ofSource 0 "notes").createTable ⟨"Note", [author]⟩] =
        .error (.schemaInconsistency 0 "Note.author" "primary key cannot be a reference") ∧
      build people [(Step.ofSource 0 "drafts").createTable ⟨"Draft", [readers]⟩] =
        .error (.schemaInconsistency 0 "Draft.readers" "primary key cannot be a reference") :=
  ⟨_, _, _, _, rfl, people_noReferenceKey, rfl, rfl, rfl, rfl, rfl, rfl, rfl, rfl, rfl⟩

end Registry

end Strata
