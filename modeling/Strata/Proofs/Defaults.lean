import Strata.Proofs.Origins

/-!
# Defaults that fit

An edit that adds a field other than the primary key is accepted only with a default that the field
admits. The fields of a created table and a primary key come in without that check
(`Edit.BringsUnchecked`), so these are the only fields whose default may not fit in a history over a
baseline whose defaults do (`Registry.default_fits_or_unchecked`). Both kinds exist: a table may be
created, and a primary key added, with a default that the same edit of a plain field would be
refused for (`Registry.exists_default_not_fitting`).
-/

namespace Strata

/-- Whether a value that a field gives as its default is one that it admits. -/
def Field.DefaultFits (f : Field) : Prop :=
  ∀ value, f.default? = some value → f.admits value = true

namespace Entity

variable {r : Record} {f : Field} {value : Value}

/-- An absent field is filled with its default. -/
theorem get?_fillField_of_default (habsent : r.has f.name = false)
    (hdefault : f.default? = some value) : (fillField r f).get? f.name = some value := by
  have hnone : r.get? f.name = none := by
    rwa [Record.has_eq_isSome, Option.isSome_eq_false_iff, Option.isNone_iff_eq_none] at habsent
  rw [get?_fillField, hnone, if_pos rfl, Option.none_or]
  unfold Field.effectiveDefault?
  rw [hdefault]
  rfl

/-- An absent field that is filled with its default has an issue unless it admits the default. -/
theorem fieldIssue?_fillField_eq_none_iff (habsent : r.has f.name = false)
    (hdefault : f.default? = some value) :
    fieldIssue? (fillField r f) f = none ↔ f.admits value = true := by
  rw [fieldIssue?_eq_none_iff, get?_fillField_of_default habsent hdefault]
  constructor
  · rintro ⟨_, ⟨⟩, hadmits⟩
    exact hadmits
  · intro hadmits
    exact ⟨value, rfl, hadmits⟩

end Entity

namespace Schema

/-- Whether every default of a schema fits its field. -/
def DefaultsFit (s : Schema) : Prop := ∀ name f, s.Defines name f → f.DefaultFits

end Schema

namespace Edit

/-- Whether an edit brings in a field of an entity without a look at its default: with a table that
it creates, or as a primary key. -/
def BringsUnchecked (edit : Edit) (entity : String) (f : Field) : Prop :=
  match edit with
  | addField name g | addReference name g => name = entity ∧ g = f ∧ g.primaryKey = true
  | createTable e => e.name = entity ∧ f ∈ e.fields
  | removeField .. => False

/-- A field that an edit brings in has a default that fits, unless the edit does not look at it. -/
theorem Brings.default_cases {cleared : List String} {name : String} {f : Field} {edit : Edit}
    (h : edit.Brings cleared name f) : f.DefaultFits ∨ edit.BringsUnchecked name f := by
  cases h with
  | added isAdd primary plain =>
    by_cases hkey : f.primaryKey = true
    · rcases isAdd with rfl | rfl
      · exact .inr ⟨rfl, rfl, hkey⟩
      · exact .inr ⟨rfl, rfl, hkey⟩
    · obtain ⟨value, heffective, hadmits⟩ := plain (Bool.eq_false_iff.2 hkey)
      refine .inl fun given hgiven => ?_
      -- A default that is given is the one that was checked.
      unfold Field.effectiveDefault? at heffective
      rw [hgiven] at heffective
      cases heffective
      exact hadmits
  | created named mem => exact .inr ⟨named, mem⟩

end Edit

namespace Registry

variable {baseline s : Schema} {steps : List Step} {registry : Registry} {version : Nat}
  {name : String} {e : Entity} {f : Field}

/-- Over a baseline whose defaults fit, a default in the schema of a version fits too, or a step
before that version brought its field in without a look at it. -/
theorem defaultFits_or_brought (h : build baseline steps = .ok registry)
    (hbase : baseline.DefaultsFit) (hs : registry.schemaAt? version = some s)
    (hf : s.Defines name f) :
    f.DefaultFits ∨ ∃ step ∈ steps, step.source < version ∧
      ∃ edit ∈ step.edits, edit.BringsUnchecked name f := by
  rcases defines_origin h hs hf with hbaseline | ⟨step, hmem, hlt, edit, hedit, hbrings⟩
  · exact .inl (hbase name f hbaseline)
  · rcases hbrings.default_cases with hfits | hunchecked
    · exact .inl hfits
    · exact .inr ⟨step, hmem, hlt, edit, hedit, hunchecked⟩

/-- **Which defaults fit.** Over a baseline whose defaults fit their fields, let a field of an
entity be defined at some version of an accepted history. Then the field admits the default it
gives, and filled with it where it is absent has no issue, unless a step before that version has
created its table with it or has added it as the primary key. -/
theorem default_fits_or_unchecked (h : build baseline steps = .ok registry)
    (hbase : baseline.DefaultsFit) (hs : registry.schemaAt? version = some s)
    (he : s.entity? name = some e) (hf : f ∈ e.fields) :
    (∀ value, f.default? = some value → f.admits value = true ∧
      ∀ r : Record, r.has f.name = false → Entity.fieldIssue? (Entity.fillField r f) f = none) ∨
    ∃ step ∈ steps, step.source < version ∧ ∃ edit ∈ step.edits, edit.BringsUnchecked name f := by
  rcases defaultFits_or_brought h hbase hs ⟨e, he, hf⟩ with hfits | hbrought
  · refine .inl fun value hdefault => ?_
    have hadmits := hfits value hdefault
    exact ⟨hadmits, fun r habsent =>
      (Entity.fieldIssue?_fillField_eq_none_iff habsent hdefault).2 hadmits⟩
  · exact .inr hbrought

theorem people_defaultsFit : people.DefaultsFit := by
  rintro name f ⟨e, he, hf⟩ value hdefault
  have hmem := (Schema.mem_of_entity?_ofList he).1
  rw [List.mem_singleton] at hmem
  subst hmem
  rw [List.mem_singleton] at hf
  subst hf
  cases hdefault

/-- An age in years that starts at nought. -/
def age : Field := (Field.plain "age" .int).withDefault (.int 0)

/-- Where people are only given an age, nothing is brought in unchecked, and the age of a person
without one is filled with a number. -/
theorem default_fits_or_unchecked_age :
    ∃ registry s e, build people [(Step.ofSource 0 "ages").addField "Person" age] = .ok registry ∧
      people.DefaultsFit ∧ registry.schemaAt? 1 = some s ∧ s.entity? "Person" = some e ∧
      age ∈ e.fields ∧ age.admits (.int 0) = true ∧
      Entity.fieldIssue? (Entity.fillField (.keyed "name" (.str "Ann")) age) age = none := by
  obtain ⟨registry, s, e, hbuild, hs, he, hmem⟩ :
      ∃ registry s e, build people [(Step.ofSource 0 "ages").addField "Person" age] = .ok registry ∧
        registry.schemaAt? 1 = some s ∧ s.entity? "Person" = some e ∧ age ∈ e.fields :=
    ⟨_, _, _, rfl, rfl, rfl, by decide⟩
  have hplain : ∀ step ∈ [(Step.ofSource 0 "ages").addField "Person" age],
      ¬∃ edit ∈ step.edits, edit.BringsUnchecked "Person" age := by
    intro step hstep
    rw [List.mem_singleton] at hstep
    subst hstep
    rintro ⟨edit, hedit, hbrings⟩
    obtain rfl : edit = .addField "Person" age := List.mem_singleton.1 hedit
    exact absurd hbrings.2.2 (by decide)
  rcases default_fits_or_unchecked hbuild people_defaultsFit hs he hmem with hfits | hbrought
  · obtain ⟨hadmits, hfilled⟩ := hfits (.int 0) rfl
    have hann := hfilled (.keyed "name" (.str "Ann")) rfl
    exact ⟨registry, s, e, hbuild, people_defaultsFit, hs, he, hmem, hadmits, hann⟩
  · obtain ⟨step, hstep, -, hbrings⟩ := hbrought
    exact absurd hbrings (hplain step hstep)

/-- A number whose default is a text. -/
def wordySize : Field := (Field.plain "size" .int).withDefault (.str "none")

/-- A numeric primary key whose default is a text. -/
def wordyKey : Field := (Field.primary "id" .int).withDefault (.str "none")

/-- A history that creates a table with a default that does not fit, and then gives the table a
primary key with such a default. -/
def wordy : List Step :=
  [(Step.ofSource 0 "notes").createTable ⟨"Note", [wordySize]⟩,
    ((Step.ofSource 1 "keys").clearTable "Note").addField "Note" wordyKey]

/-- A default that does not fit gets into the schema with a created table and with a primary key,
and a record that is filled with it has an issue. To a table that exists the same field is not
added. -/
theorem exists_default_not_fitting :
    ∃ registry s e, build people wordy = .ok registry ∧ people.DefaultsFit ∧
      registry.schemaAt? 2 = some s ∧ s.entity? "Note" = some e ∧ e.fields = [wordySize, wordyKey] ∧
      wordySize.default? = some (.str "none") ∧ wordySize.admits (.str "none") = false ∧
      Entity.fieldIssue? (Entity.fillField .keyless wordySize) wordySize =
        some (.typeMismatch "size" .int "string") ∧
      wordyKey.default? = some (.str "none") ∧ wordyKey.admits (.str "none") = false ∧
      Entity.fieldIssue? (Entity.fillField .keyless wordyKey) wordyKey =
        some (.typeMismatch "id" .int "string") ∧
      build people [(Step.ofSource 0 "sizes").addField "Person" wordySize] =
        .error (.schemaInconsistency 0 "Person.size"
          ("default " ++ (Value.str "none").spelled ++ " does not fit int")) :=
  ⟨_, _, _, rfl, people_defaultsFit, rfl, rfl, rfl, rfl, rfl, rfl, rfl, rfl, rfl, rfl⟩

end Registry

end Strata
