import Strata.Proofs.Consistency
import Strata.Store.Checker

/-!
# The check of a consistent store

A check of a store that is consistent at the current version finds nothing
(`Checker.violations_of_consistent`), so the only thing that can go wrong with it is that a live
schema without entities cannot be read back.
-/

namespace Strata

namespace Store

variable {s : Store} {schema : Schema}

/-- The stored entities of a store are read back, and are entities of its schema. -/
theorem Holds.exists_storedEntities (h : s.Holds schema) (hnames : schema.NulFreeNames) :
    ∃ stored, s.storedEntities = .ok stored ∧ ∀ name ∈ stored, schema.hasEntity name = true := by
  have hfiled := h.filed hnames
  obtain ⟨stored, hstored, hall⟩ := hfiled.exists_storedEntities
  refine ⟨stored, hstored, fun name hmem => ?_⟩
  obtain ⟨hname, hscan⟩ := (hall name).1 hmem
  obtain ⟨r, hr⟩ := List.exists_mem_of_ne_nil _ hscan
  obtain ⟨e, he, -⟩ := h.entity_of_get? hnames hname ((hfiled.mem_scan_iff hname).1 hr)
  exact Schema.hasEntity_of_entity? he

end Store

namespace Checker

variable {registry : Registry} {s : Store}

/-- An entity does not differ from itself. -/
theorem entityViolations_self {e : Entity} (h : e.fieldNames.Nodup) :
    entityViolations e e = [] := by
  have hfields : e.fields.filterMap (fieldViolation? e e) = [] := by
    rw [List.filterMap_eq_nil_iff]
    intro f hf
    unfold fieldViolation?
    rw [Entity.field?_of_mem h hf]
    exact if_pos rfl
  have hunexpected : (e.fields.filter fun f => !e.hasField f.name) = [] := by
    rw [List.filter_eq_nil_iff]
    intro f hf
    rw [Entity.hasField_of_mem hf]
    exact Bool.false_ne_true
  unfold entityViolations
  dsimp only
  rw [hfields, hunexpected]
  simp

/-- A schema does not differ from itself. -/
theorem schemaViolations_self {schema : Schema} (h : schema.DistinctFields) :
    schemaViolations schema schema = [] := by
  unfold schemaViolations
  rw [List.append_eq_nil_iff, List.flatMap_eq_nil_iff, List.map_eq_nil_iff, List.filter_eq_nil_iff]
  constructor
  · rintro ⟨name, e⟩ hmem
    have he : schema.entity? name = some e := Std.ExtTreeMap.mem_toList_iff_getElem?_eq_some.1 hmem
    dsimp only
    rw [he]
    exact entityViolations_self (h name e he)
  · intro name hmem
    rw [Schema.mem_names_iff.1 hmem]
    exact Bool.false_ne_true

/-- The records of a schema have no issue. -/
theorem recordViolations_of_holds {schema : Schema} (h : s.Holds schema)
    (hnames : schema.NulFreeNames) : recordViolations s schema = [] := by
  unfold recordViolations
  rw [List.flatMap_eq_nil_iff]
  rintro ⟨name, e⟩ hmem
  have he : schema.entity? name = some e := Std.ExtTreeMap.mem_toList_iff_getElem?_eq_some.1 hmem
  have hname := hnames name (Schema.hasEntity_of_entity? he)
  dsimp only
  rw [List.flatMap_eq_nil_iff]
  intro r hr
  obtain ⟨e', he', hissues⟩ := h.entity_of_get? hnames hname
    (((h.filed hnames).mem_scan_iff hname).1 hr)
  rw [he] at he'
  cases he'
  rw [hissues]
  rfl

/-- What is wrong with the records of a schema with one entity. -/
theorem recordViolations_eq_of_toList {schema : Schema} {name : String} {e : Entity}
    (h : schema.entities.toList = [(name, e)]) :
    recordViolations s schema = (s.scan name).flatMap fun r =>
      (e.issues r).map fun issue => .invalidRecord name r.key.text issue.text := by
  unfold recordViolations
  rw [h, List.flatMap_singleton]

/-- A check whose store can be read lists what is wrong with each of its parts. -/
theorem violations_eq {stamped? : Option Nat} {fingerprint? : Option Fingerprint}
    {live? : Option Schema} {stored : List String} (hstamp : s.readStamp = .ok stamped?)
    (hfp : s.readFingerprint = .ok fingerprint?) (hread : s.readSchema = .ok live?)
    (hstored : s.storedEntities = .ok stored) (verifyRecords : Bool) :
    violations s registry verifyRecords = .ok (headerViolations registry stamped? fingerprint? ++
      liveViolations registry.current live? ++ orphanViolations s registry.current stored ++
        if verifyRecords then recordViolations s registry.current else []) := by
  unfold violations
  rw [hstamp, hfp, hread, hstored]
  rfl

/-- A check of a store whose header and live schema are those of the registry, and which stores
nothing under other entities, finds what is wrong with the records and nothing else. -/
theorem violations_of_current (hstamped : s.stamped? = some registry.currentVersion)
    (hfp : s.fingerprint? = some registry.fingerprint)
    (hread : s.readSchema = .ok (some registry.current))
    (hschema : schemaViolations registry.current registry.current = []) {stored : List String}
    (hstored : s.storedEntities = .ok stored)
    (horphans : orphanViolations s registry.current stored = []) (verifyRecords : Bool) :
    violations s registry verifyRecords =
      .ok (if verifyRecords then recordViolations s registry.current else []) := by
  have hheader : headerViolations registry (some registry.currentVersion)
      (some registry.fingerprint) = [] := by
    unfold headerViolations
    rw [if_pos rfl, if_pos rfl]
    rfl
  have hlive : liveViolations registry.current (some registry.current) = [] := hschema
  have hstamp := Store.readStamp_eq_some_iff.2 hstamped
  have hfingerprint : s.readFingerprint = .ok (some registry.fingerprint) :=
    Store.readFingerprint_eq_fingerprint_iff.2 hfp
  rw [violations_eq hstamp hfingerprint hread hstored, hheader, hlive, horphans]
  rfl

/-- A check of a store that is consistent at the current version finds nothing, if the schema can be
read back at all. -/
theorem violations_of_consistent
    (hcurrent : registry.schemaAt? registry.currentVersion = some registry.current)
    (hdistinct : registry.current.DistinctFields) (hnames : registry.current.NulFreeNames)
    (hs : registry.Consistent registry.currentVersion s) (verifyRecords : Bool) :
    violations s registry verifyRecords =
      if registry.current.entities.isEmpty then .error .schemaUnreadable else .ok [] := by
  obtain ⟨schema, hschema, hlive, hfp, hholds⟩ := hs.live
  rw [hcurrent] at hschema
  cases hschema
  have hread : s.readSchema =
      if registry.current.entities.isEmpty then .error .schemaUnreadable
      else .ok (some registry.current) := by
    unfold Store.readSchema
    rw [hlive]
  cases hempty : registry.current.entities.isEmpty with
  | true =>
    rw [hempty] at hread
    unfold violations
    rw [Store.readStamp_eq_some_iff.2 hs.stamped, Store.readFingerprint_eq_fingerprint_iff.2 hfp,
      hread]
    rfl
  | false =>
    rw [hempty, if_neg Bool.false_ne_true] at hread
    obtain ⟨stored, hstored, hall⟩ := hholds.exists_storedEntities hnames
    have horphans : orphanViolations s registry.current stored = [] := by
      unfold orphanViolations
      rw [List.map_eq_nil_iff, List.filter_eq_nil_iff]
      intro name hmem
      rw [hall name hmem]
      exact Bool.false_ne_true
    rw [violations_of_current hs.stamped hfp hread (schemaViolations_self hdistinct) hstored
      horphans, recordViolations_of_holds hholds hnames, if_neg Bool.false_ne_true, ite_self]

/-- A check succeeds exactly when it finds nothing. -/
theorem check_eq_ok_iff {verifyRecords : Bool} :
    check s registry verifyRecords = .ok () ↔ violations s registry verifyRecords = .ok [] := by
  unfold check
  split
  · next hviolations =>
    rw [hviolations]
    exact ⟨nofun, nofun⟩
  · next hviolations =>
    rw [hviolations]
    exact ⟨fun _ => rfl, fun _ => rfl⟩
  · next found hne hviolations =>
    rw [hviolations]
    constructor
    · intro h
      cases h
    · intro h
      cases h
      exact absurd rfl hne

/-- A store whose check succeeds is at the current version. -/
theorem stamped_of_check_ok {verifyRecords : Bool}
    (h : check s registry verifyRecords = .ok ()) :
    s.stamped? = some registry.currentVersion := by
  rw [check_eq_ok_iff] at h
  unfold violations at h
  obtain ⟨stamped?, hstamp, h⟩ := bind_eq_ok_iff.1 h
  obtain ⟨fingerprint?, -, h⟩ := bind_eq_ok_iff.1 h
  obtain ⟨live, -, h⟩ := bind_eq_ok_iff.1 h
  obtain ⟨stored, -, h⟩ := bind_eq_ok_iff.1 h
  have hnone : headerViolations registry stamped? fingerprint? = [] := by
    have hall := Except.ok.inj h
    rw [List.append_eq_nil_iff, List.append_eq_nil_iff, List.append_eq_nil_iff] at hall
    exact hall.1.1.1
  rw [Store.stamped?_of_readStamp hstamp]
  by_contra hne
  unfold headerViolations at hnone
  rw [if_neg hne] at hnone
  cases hnone

/-- The final check of a store that is consistent at the current version does not fail on a
mismatch. -/
theorem isMismatch_of_check_error
    (hcurrent : registry.schemaAt? registry.currentVersion = some registry.current)
    (hdistinct : registry.current.DistinctFields) (hnames : registry.current.NulFreeNames)
    (hs : registry.Consistent registry.currentVersion s) {verifyRecords : Bool}
    {e : MigrationError} (h : check s registry verifyRecords = .error e) :
    e.isMismatch = false := by
  unfold check at h
  rw [violations_of_consistent hcurrent hdistinct hnames hs] at h
  cases hempty : registry.current.entities.isEmpty with
  | true =>
    rw [hempty] at h
    cases h
    rfl
  | false =>
    rw [hempty] at h
    cases h

end Checker

end Strata
