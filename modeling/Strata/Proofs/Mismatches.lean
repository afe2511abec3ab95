import Strata.Proofs.Checks
import Strata.Proofs.Simulation

/-!
# What a check finds

A check finds nothing exactly in the stores that agree with the current schema of a registry
(`Checker.Agrees`): the header and the live schema are those of the registry, and every record is of
one of its entities and has no issue. Each part of a check is shown to be empty exactly when its
part of the store agrees (`Checker.headerViolations_eq_nil_iff` and those that follow it), and
`Checker.violations_exact` puts them together.

Fields are compared by looking up names in both directions, and the order of the names is compared
only if that shows no difference. With distinct names in the expected entity this comes down to
equality of the two lists (`Checker.entityViolations_eq_nil_iff`), whatever the live fields are.

For a store that agrees the names of the entities have to be apart. If one continues another behind
the null character, the check may read a record of the one entity as a record of the other as well,
and find fault with it although it fits the entity that it is stored under
(`Checker.exists_agreeing_with_violations`).
-/

namespace Strata

/-- Lists with the same values under a map, which are distinct in the first, are equal if the second
list has every member of the first. -/
theorem eq_of_map_eq_of_subset {α β : Type} {f : α → β} {l l' : List α}
    (hmap : l.map f = l'.map f) (hnodup : (l.map f).Nodup) (hsub : ∀ a ∈ l, a ∈ l') : l = l' := by
  induction l generalizing l' with
  | nil => exact (List.map_eq_nil_iff.1 hmap.symm).symm
  | cons a rest ih =>
    cases l' with
    | nil => cases hmap
    | cons a' rest' =>
      obtain ⟨hhead, htail⟩ := List.cons.inj hmap
      rw [List.map_cons, List.nodup_cons] at hnodup
      -- A member of one rest that is the head of the other list would repeat the first value.
      have heq : a = a' := by
        refine (List.mem_cons.1 (hsub a List.mem_cons_self)).resolve_right fun hmem => hnodup.1 ?_
        rw [htail]
        exact List.mem_map_of_mem hmem
      have hrest : ∀ b ∈ rest, b ∈ rest' := by
        intro b hb
        refine (List.mem_cons.1 (hsub b (List.mem_cons_of_mem a hb))).resolve_left fun hba => ?_
        subst hba
        exact hnodup.1 (hhead ▸ List.mem_map_of_mem hb)
      rw [heq, ih htail hnodup.2 hrest]

namespace Checker

variable {registry : Registry} {s : Store} {expected : Schema}

/-! ## The parts of a check -/

/-- Nothing is wrong with a header exactly when it is that of the registry. -/
theorem headerViolations_eq_nil_iff {stamped? : Option Nat} {fingerprint? : Option Fingerprint} :
    headerViolations registry stamped? fingerprint? = [] ↔
      stamped? = some registry.currentVersion ∧ fingerprint? = some registry.fingerprint := by
  unfold headerViolations
  rw [List.append_eq_nil_iff, ite_eq_left_iff, ite_eq_left_iff]
  constructor
  · rintro ⟨hstamped, hfp⟩
    constructor
    · by_contra hne
      cases hstamped hne
    · by_contra hne
      cases hfp hne
  · rintro ⟨hstamped, hfp⟩
    exact ⟨fun hne => absurd hstamped hne, fun hne => absurd hfp hne⟩

/-- Nothing is wrong with a live entity exactly when it has the same fields in the same order. -/
theorem entityViolations_eq_nil_iff {e live : Entity} (h : e.fieldNames.Nodup) :
    entityViolations e live = [] ↔ live.fields = e.fields := by
  constructor
  · intro hnone
    unfold entityViolations at hnone
    dsimp only at hnone
    split at hnone
    · cases hnone
    next hcond =>
    rw [hnone] at hcond
    -- With no other difference the names were compared, and found to be the same.
    have hnames : e.fieldNames = live.fieldNames := by
      simpa using hcond
    have hfields : ∀ f ∈ e.fields, f ∈ live.fields := by
      intro f hf
      have hfield := List.filterMap_eq_nil_iff.1 (List.append_eq_nil_iff.1 hnone).1 f hf
      unfold fieldViolation? at hfield
      split at hfield
      · cases hfield
      next found hfound =>
      have hsame : found = f := by
        by_contra hne
        rw [if_neg hne] at hfield
        cases hfield
      exact hsame ▸ List.mem_of_find?_eq_some hfound
    exact (eq_of_map_eq_of_subset hnames h hfields).symm
  · intro hfields
    -- The name of the live entity is not looked at.
    have hself : entityViolations e live = entityViolations e e := by
      cases live with
      | mk name fields =>
        cases hfields
        rfl
    rw [hself, entityViolations_self h]

/-- Nothing is wrong with a live schema exactly when it has the same entities, each with the same
fields in the same order. -/
theorem schemaViolations_eq_nil_iff {live : Schema} (h : expected.DistinctFields) :
    schemaViolations expected live = [] ↔
      ∀ name, (live.entity? name).map (·.fields) = (expected.entity? name).map (·.fields) := by
  have hmem : ∀ name e, (name, e) ∈ expected.entities.toList ↔ expected.entity? name = some e :=
    fun name e => Std.ExtTreeMap.mem_toList_iff_getElem?_eq_some
  unfold schemaViolations
  rw [List.append_eq_nil_iff, List.flatMap_eq_nil_iff, List.map_eq_nil_iff, List.filter_eq_nil_iff]
  constructor
  · rintro ⟨hexpected, hlive⟩ name
    cases he : expected.entity? name with
    | some e =>
      have hnone := hexpected (name, e) ((hmem name e).2 he)
      dsimp only at hnone
      split at hnone
      · next found hfound =>
        rw [hfound, Option.map_some, (entityViolations_eq_nil_iff (h name e he)).1 hnone]
        rfl
      · cases hnone
    | none =>
      -- A live entity of that name would be unexpected.
      cases hfound : live.entity? name with
      | none => rfl
      | some found =>
        have hhas := hlive name (Schema.mem_names_iff.2 (Schema.hasEntity_of_entity? hfound))
        rw [Schema.hasEntity_eq_isSome, he] at hhas
        exact absurd rfl hhas
  · intro hsame
    constructor
    · rintro ⟨name, e⟩ hmem'
      have he := (hmem name e).1 hmem'
      have hfields := hsame name
      rw [he, Option.map_some] at hfields
      obtain ⟨found, hfound, hfields⟩ := Option.map_eq_some_iff.1 hfields
      dsimp only
      rw [hfound]
      exact (entityViolations_eq_nil_iff (h name e he)).2 hfields
    · intro name hname
      obtain ⟨found, hfound⟩ := Schema.exists_entity? (Schema.mem_names_iff.1 hname)
      have hfields := hsame name
      rw [hfound, Option.map_some] at hfields
      obtain ⟨e, he, -⟩ := Option.map_eq_some_iff.1 hfields.symm
      rw [Schema.hasEntity_of_entity? he]
      exact Bool.false_ne_true

/-- Nothing is wrong with the stored entities exactly when the schema has all of them. -/
theorem orphanViolations_eq_nil_iff {stored : List String} :
    orphanViolations s expected stored = [] ↔
      ∀ name ∈ stored, expected.hasEntity name = true := by
  unfold orphanViolations
  rw [List.map_eq_nil_iff, List.filter_eq_nil_iff]
  refine forall₂_congr fun name _ => ?_
  rw [Bool.not_eq_true', Bool.not_eq_false]

/-- Nothing is wrong with the records exactly when no record that an entity reads has an issue. -/
theorem recordViolations_eq_nil_iff : recordViolations s expected = [] ↔ s.ReadsFit expected := by
  unfold recordViolations Store.ReadsFit
  rw [List.flatMap_eq_nil_iff]
  constructor
  · intro h name e he r hr
    have hnone := h (name, e) (Std.ExtTreeMap.mem_toList_iff_getElem?_eq_some.2 he)
    exact List.map_eq_nil_iff.1 (List.flatMap_eq_nil_iff.1 hnone r hr)
  · rintro h ⟨name, e⟩ hmem
    have he : expected.entity? name = some e :=
      Std.ExtTreeMap.mem_toList_iff_getElem?_eq_some.1 hmem
    refine List.flatMap_eq_nil_iff.2 fun r hr => ?_
    rw [h name e he r hr]
    rfl

/-! ## Checks that leave out the records -/

theorem isInvalidRecord_of_mem_headerViolations {stamped? : Option Nat}
    {fingerprint? : Option Fingerprint} {v : Violation}
    (h : v ∈ headerViolations registry stamped? fingerprint?) : v.isInvalidRecord = false := by
  unfold headerViolations at h
  rcases List.mem_append.1 h with h | h
  · split at h
    · cases h
    · cases List.mem_singleton.1 h
      rfl
  · split at h
    · cases h
    · cases List.mem_singleton.1 h
      rfl

theorem isInvalidRecord_of_mem_entityViolations {e live : Entity} {v : Violation}
    (h : v ∈ entityViolations e live) : v.isInvalidRecord = false := by
  unfold entityViolations at h
  dsimp only at h
  split at h
  · cases List.mem_singleton.1 h
    rfl
  rcases List.mem_append.1 h with h | h
  · obtain ⟨f, -, hfield⟩ := List.mem_filterMap.1 h
    unfold fieldViolation? at hfield
    split at hfield
    · cases hfield
      rfl
    · obtain ⟨-, hv⟩ := Option.ite_none_left_eq_some.1 hfield
      cases hv
      rfl
  · obtain ⟨f, -, rfl⟩ := List.mem_map.1 h
    rfl

theorem isInvalidRecord_of_mem_liveViolations {live? : Option Schema} {v : Violation}
    (h : v ∈ liveViolations expected live?) : v.isInvalidRecord = false := by
  unfold liveViolations at h
  split at h
  · unfold schemaViolations at h
    rcases List.mem_append.1 h with h | h
    · obtain ⟨⟨name, e⟩, -, h⟩ := List.mem_flatMap.1 h
      dsimp only at h
      split at h
      · exact isInvalidRecord_of_mem_entityViolations h
      · cases List.mem_singleton.1 h
        rfl
    · obtain ⟨name, -, rfl⟩ := List.mem_map.1 h
      rfl
  · cases List.mem_singleton.1 h
    rfl

theorem isInvalidRecord_of_mem_orphanViolations {stored : List String} {v : Violation}
    (h : v ∈ orphanViolations s expected stored) : v.isInvalidRecord = false := by
  unfold orphanViolations at h
  obtain ⟨name, -, rfl⟩ := List.mem_map.1 h
  rfl

theorem isInvalidRecord_of_mem_recordViolations {v : Violation}
    (h : v ∈ recordViolations s expected) : v.isInvalidRecord = true := by
  unfold recordViolations at h
  obtain ⟨⟨name, e⟩, -, h⟩ := List.mem_flatMap.1 h
  obtain ⟨r, -, h⟩ := List.mem_flatMap.1 h
  obtain ⟨issue, -, rfl⟩ := List.mem_map.1 h
  rfl

/-- A check that leaves out the records finds what a whole check finds, without what is wrong with
single records. -/
theorem violations_false (s : Store) (registry : Registry) :
    violations s registry false =
      (violations s registry true).map (List.filter fun v => !v.isInvalidRecord) := by
  -- What cannot be read stops both checks alike.
  cases hstamp : s.readStamp with
  | error e =>
    unfold violations
    rw [hstamp]
    rfl
  | ok stamped? =>
  cases hfp : s.readFingerprint with
  | error e =>
    unfold violations
    rw [hstamp, hfp]
    rfl
  | ok fingerprint? =>
  cases hread : s.readSchema with
  | error e =>
    unfold violations
    rw [hstamp, hfp, hread]
    rfl
  | ok live? =>
  cases hstored : s.storedEntities with
  | error e =>
    unfold violations
    rw [hstamp, hfp, hread, hstored]
    rfl
  | ok stored =>
  have hkept : ∀ v ∈ headerViolations registry stamped? fingerprint? ++
      liveViolations registry.current live? ++ orphanViolations s registry.current stored,
      (!v.isInvalidRecord) = true := by
    intro v hv
    rw [Bool.not_eq_true']
    rcases List.mem_append.1 hv with hv | hv
    · rcases List.mem_append.1 hv with hv | hv
      · exact isInvalidRecord_of_mem_headerViolations hv
      · exact isInvalidRecord_of_mem_liveViolations hv
    · exact isInvalidRecord_of_mem_orphanViolations hv
  have hdropped :
      (recordViolations s registry.current).filter (fun v => !v.isInvalidRecord) = [] := by
    rw [List.filter_eq_nil_iff]
    intro v hv
    rw [isInvalidRecord_of_mem_recordViolations hv]
    exact Bool.false_ne_true
  rw [violations_eq hstamp hfp hread hstored, violations_eq hstamp hfp hread hstored,
    if_neg Bool.false_ne_true, if_pos rfl]
  refine congrArg Except.ok ?_
  rw [List.filter_append, hdropped, List.filter_eq_self.2 hkept]

/-! ## Whole checks -/

/-- A store agrees with the current schema of a registry. -/
structure Agrees (registry : Registry) (s : Store) : Prop where
  /-- The header has the current version. -/
  stamped : s.stamped? = some registry.currentVersion
  /-- The header has the fingerprint of the registry. -/
  fingerprint : s.fingerprint? = some registry.fingerprint
  /-- There is a live schema. It has the entities of the current one, each with the same definitions
  of its fields in the same order. -/
  live : ∃ live, s.schema? = some live ∧
    ∀ name, (live.entity? name).map (·.fields) = (registry.current.entity? name).map (·.fields)
  /-- Every stored record is of an entity of the current schema. -/
  known : ∀ name key r, NulFree name → s.get? name key = some r →
    registry.current.hasEntity name = true
  /-- No stored record has an issue under its entity. -/
  fits : ∀ name key r e, NulFree name → s.get? name key = some r →
    registry.current.entity? name = some e → e.issues r = []

/-- The records of a store that agrees are records of the current schema. -/
theorem Agrees.holds (h : Agrees registry s) (hfiled : s.Filed) : s.Holds registry.current := by
  refine Store.holds_of_get? hfiled fun name key r hname hr => ?_
  obtain ⟨e, he⟩ := Schema.exists_entity? (h.known name key r hname hr)
  exact ⟨e, he, h.fits name key r e hname hr he⟩

/-- A store with the header and the schema of the registry agrees if every record found in it is of
an entity of the schema and has no issue. -/
theorem agrees_of_get? (hstamped : s.stamped? = some registry.currentVersion)
    (hfp : s.fingerprint? = some registry.fingerprint)
    (hschema : s.schema? = some registry.current)
    (hrecords : ∀ name key r, NulFree name → s.get? name key = some r →
      ∃ e, registry.current.entity? name = some e ∧ e.issues r = []) : Agrees registry s := by
  refine ⟨hstamped, hfp, ⟨_, hschema, fun _ => rfl⟩, fun name key r hname hr => ?_,
    fun name key r e hname hr he => ?_⟩
  · obtain ⟨e, he, -⟩ := hrecords name key r hname hr
    exact Schema.hasEntity_of_entity? he
  · obtain ⟨e', he', hissues⟩ := hrecords name key r hname hr
    rw [he] at he'
    cases he'
    exact hissues

section Filed

variable {stamped? : Option Nat} {fingerprint? : Option Fingerprint} {live? : Option Schema}
  {stored : List String}

/-- A filed store agrees if each part of a check finds nothing. -/
theorem agrees_of_parts (hdistinct : registry.current.DistinctFields) (hfiled : s.Filed)
    (hstamp : s.readStamp = .ok stamped?) (hfp : s.readFingerprint = .ok fingerprint?)
    (hread : s.readSchema = .ok live?)
    (hstored : ∀ name, name ∈ stored ↔ NulFree name ∧ s.scan name ≠ [])
    (hheader : headerViolations registry stamped? fingerprint? = [])
    (hlive : liveViolations registry.current live? = [])
    (horphans : orphanViolations s registry.current stored = [])
    (hrecords : recordViolations s registry.current = []) : Agrees registry s := by
  have hscan : ∀ name key r, NulFree name → s.get? name key = some r → r ∈ s.scan name := by
    intro name key r hname hr
    have hkey : r.key = key := hfiled.key_of_get? hname hr
    exact (hfiled.mem_scan_iff hname).2 (hkey ▸ hr)
  obtain ⟨rfl, rfl⟩ := headerViolations_eq_nil_iff.1 hheader
  refine ⟨Store.readStamp_eq_some_iff.1 hstamp, Store.readFingerprint_eq_fingerprint_iff.1 hfp, ?_,
    fun name key r hname hr => ?_, fun name key r e hname hr he => ?_⟩
  · cases live? with
    | none => cases hlive
    | some live =>
      exact ⟨live, Store.schema?_of_readSchema hread,
        (schemaViolations_eq_nil_iff hdistinct).1 hlive⟩
  · have hne : s.scan name ≠ [] := List.ne_nil_of_mem (hscan name key r hname hr)
    exact orphanViolations_eq_nil_iff.1 horphans name ((hstored name).2 ⟨hname, hne⟩)
  · exact recordViolations_eq_nil_iff.1 hrecords name e he r (hscan name key r hname hr)

/-- No part of a check finds anything in a filed store that agrees. An entity has to read records of
its own only, which is where the names come in. -/
theorem Agrees.parts (h : Agrees registry s) (hdistinct : registry.current.DistinctFields)
    (hnames : registry.current.NamesApart) (hfiled : s.Filed)
    (hstamp : s.readStamp = .ok stamped?) (hfp : s.readFingerprint = .ok fingerprint?)
    (hread : s.readSchema = .ok live?)
    (hstored : ∀ name, name ∈ stored ↔ NulFree name ∧ s.scan name ≠ []) :
    headerViolations registry stamped? fingerprint? = [] ∧ liveViolations registry.current live? = [] ∧
      orphanViolations s registry.current stored = [] ∧
      recordViolations s registry.current = [] := by
  obtain rfl : s.stamped? = stamped? := Store.stamped?_of_readStamp hstamp
  obtain rfl : s.fingerprint? = fingerprint? := (Store.readFingerprint_eq_ok_iff.1 hfp).1
  refine ⟨headerViolations_eq_nil_iff.2 ⟨h.stamped, h.fingerprint⟩, ?_,
    orphanViolations_eq_nil_iff.2 fun name hname => ?_,
    recordViolations_eq_nil_iff.2 ((h.holds hfiled).readsFit hnames)⟩
  · obtain ⟨live, hschema, hsame⟩ := h.live
    rw [← Store.schema?_of_readSchema hread, hschema]
    exact (schemaViolations_eq_nil_iff hdistinct).2 hsame
  · obtain ⟨hfree, hne⟩ := (hstored name).1 hname
    obtain ⟨r, hr⟩ := List.exists_mem_of_ne_nil _ hne
    exact h.known name r.key r hfree ((hfiled.mem_scan_iff hfree).1 hr)

/-- **A check is exact.** If the header and the live schema of a store can be read, its records are
filed, and the current schema has distinct field names in each entity, a check that finds nothing
shows that the store agrees with the current schema. It finds nothing in a store that agrees,
provided that the names of the entities are apart. A check that leaves out the records finds the same, without what is
wrong with single records. -/
theorem violations_exact (hdistinct : registry.current.DistinctFields) (hfiled : s.Filed)
    (hstamp : s.readStamp = .ok stamped?) (hfp : s.readFingerprint = .ok fingerprint?)
    (hread : s.readSchema = .ok live?) :
    ∃ found, violations s registry true = .ok found ∧
      (found = [] → Agrees registry s) ∧
      (registry.current.NamesApart → Agrees registry s → found = []) ∧
      violations s registry false = .ok (found.filter fun v => !v.isInvalidRecord) := by
  obtain ⟨stored, hstored, hmem⟩ := hfiled.exists_storedEntities
  have hfound : violations s registry true = _ := violations_eq hstamp hfp hread hstored true
  refine ⟨_, hfound, fun hnone => ?_, fun hnames hagrees => ?_,
    by rw [violations_false, hfound]; rfl⟩
  · rw [if_pos rfl, List.append_eq_nil_iff, List.append_eq_nil_iff, List.append_eq_nil_iff] at hnone
    obtain ⟨⟨⟨hheader, hlive⟩, horphans⟩, hrecords⟩ := hnone
    exact agrees_of_parts hdistinct hfiled hstamp hfp hread hmem hheader hlive horphans hrecords
  · obtain ⟨hheader, hlive, horphans, hrecords⟩ :=
      hagrees.parts hdistinct hnames hfiled hstamp hfp hread hmem
    rw [if_pos rfl, hheader, hlive, horphans, hrecords]
    rfl

end Filed

/-- A check of a store in which one person is known finds nothing, with the records and without. -/
theorem violations_exact_onePerson :
    ∃ registry, Registry.build Registry.people [] = .ok registry ∧
      Agrees registry Registry.onePerson ∧
      violations Registry.onePerson registry true = .ok [] ∧
      violations Registry.onePerson registry false = .ok [] := by
  obtain ⟨registry, hbuild, hcurrent, hstamped, hfp, hschema, hread⟩ :
      ∃ registry, Registry.build Registry.people [] = .ok registry ∧
        registry.current = Registry.people ∧
        Registry.onePerson.stamped? = some registry.currentVersion ∧
        Registry.onePerson.fingerprint? = some registry.fingerprint ∧
        Registry.onePerson.schema? = some registry.current ∧
        Registry.onePerson.readSchema = .ok (some registry.current) :=
    ⟨_, rfl, rfl, rfl, rfl, rfl, rfl⟩
  have hnames := Registry.people_nulFreeNames
  have hperson : ∀ name key r, NulFree name → Registry.onePerson.get? name key = some r →
      ∃ e, registry.current.entity? name = some e ∧ e.issues r = [] := by
    intro name key r hname hr
    rw [hcurrent]
    exact Registry.onePerson_holds.entity_of_get? hnames hname hr
  have hagrees := agrees_of_get? hstamped hfp hschema hperson
  obtain ⟨found, hfound, -, hnothing, hwithout⟩ := violations_exact
    (hcurrent ▸ Registry.people_wellFormed.distinct) (Registry.onePerson_holds.filed hnames)
    (Store.readStamp_eq_some_iff.2 hstamped) (Store.readFingerprint_eq_fingerprint_iff.2 hfp) hread
  cases hnothing (hcurrent ▸ hnames.namesApart) hagrees
  exact ⟨registry, hbuild, hagrees, hfound, hwithout⟩

/-- A store of people and strangers in which one person is known. The storage key of this person
also opens with the name of the second table. -/
def oneAlias : Store :=
  (Store.ofSchema Registry.crowd 0).putRecord "Person" (.keyed "name" (.str "\x00x"))

theorem oneAlias_records {bytes : Bytes} {r : Record} (h : oneAlias.records[bytes]? = some r) :
    bytes = StorageKey.encode "Person" (.str "\x00x") ∧ r = .keyed "name" (.str "\x00x") := by
  rcases Store.records_putRecord_cases h with hput | hold
  · exact hput
  · simp [Store.ofSchema, Store.empty] at hold

/-- Names have to be apart: the one record of this store is a person without fault, and is read as a
record of the second table as well, which it does not fit. -/
theorem exists_agreeing_with_violations :
    ∃ registry, Registry.build Registry.crowd [] = .ok registry ∧
      registry.current.DistinctFields ∧ oneAlias.Filed ∧
      oneAlias.readSchema = .ok (some registry.current) ∧ Agrees registry oneAlias ∧
      ∃ found, violations oneAlias registry true = .ok found ∧ found ≠ [] := by
  obtain ⟨registry, e, hbuild, hcurrent, hread, hstamped, hfp, hschema, he, hissues, hempty⟩ :
      ∃ registry e, Registry.build Registry.crowd [] = .ok registry ∧
        registry.current = Registry.crowd ∧
        oneAlias.readSchema = .ok (some registry.current) ∧
        oneAlias.stamped? = some registry.currentVersion ∧
        oneAlias.fingerprint? = some registry.fingerprint ∧
        oneAlias.schema? = some registry.current ∧
        registry.current.entity? "Person" = some e ∧
        e.issues (.keyed "name" (.str "\x00x")) = [] ∧
        (violations oneAlias registry true).map List.isEmpty = .ok false := by
    refine ⟨_, _, rfl, rfl, rfl, rfl, rfl, rfl, rfl, rfl, ?_⟩
    decide +kernel
  have hperson : NulFree "Person" := by decide
  have hdistinct : registry.current.DistinctFields := by
    rw [hcurrent]
    exact (Schema.wellFormed_ofList (by decide) (by decide) (by decide)).distinct
  have hfiled : oneAlias.Filed := by
    intro bytes r hr
    obtain ⟨rfl, rfl⟩ := oneAlias_records hr
    exact ⟨"Person", hperson, rfl⟩
  have hagrees : Agrees registry oneAlias := by
    refine agrees_of_get? hstamped hfp hschema fun name key r hname hr => ?_
    obtain ⟨hencode, rfl⟩ := oneAlias_records hr
    obtain ⟨rfl, -⟩ := StorageKey.encode_injective hname hperson hencode
    exact ⟨e, he, hissues⟩
  obtain ⟨found, hfound⟩ : ∃ found, violations oneAlias registry true = .ok found := by
    cases h : violations oneAlias registry true with
    | error error =>
      rw [h] at hempty
      cases hempty
    | ok found => exact ⟨found, rfl⟩
  refine ⟨registry, hbuild, hdistinct, hfiled, hread, hagrees, found, hfound, ?_⟩
  rintro rfl
  rw [hfound] at hempty
  cases hempty

end Checker

end Strata
