import Strata.Registry
import Strata.Store.Basic

/-!
# Consistency checks

A check compares a store with the current schema of a registry and lists every mismatch: of the
header, of the live schema, of the entities that records are stored under, and of the records. It
writes nothing and stops at nothing.
-/

namespace Strata.Checker

/-- A definition with its default, as mismatches show it. -/
def describe (f : Field) : String :=
  match f.default? with
  | some value => f.text ++ " = " ++ value.spelled
  | none => f.text

/-- The mismatch of one expected field with a live entity. -/
def fieldViolation? (expected live : Entity) (f : Field) : Option Violation :=
  match live.field? f.name with
  | none => some (.missingField expected.name f.name)
  | some found =>
    if found = f then none
    else some (.fieldDefinitionMismatch expected.name f.name (describe f) (describe found))

/-- The mismatches of a live entity. The order of the fields is looked at only if nothing else is
wrong. -/
def entityViolations (expected live : Entity) : List Violation :=
  let wrong := expected.fields.filterMap (fieldViolation? expected live) ++
    (live.fields.filter fun f => !expected.hasField f.name).map fun f =>
      .unexpectedField expected.name f.name
  -- Equal fields in another order: both lists have the same members here.
  if wrong.isEmpty && expected.fieldNames != live.fieldNames then
    [.fieldOrder expected.name expected.fieldNames live.fieldNames]
  else wrong

/-- The mismatches of a live schema: the expected entities in order, then the others. -/
def schemaViolations (expected live : Schema) : List Violation :=
  (expected.entities.toList.flatMap fun (name, e) =>
    match live.entity? name with
    | some found => entityViolations e found
    | none => [.missingEntity name]) ++
  (live.names.filter fun name => !expected.hasEntity name).map .unexpectedEntity

/-- The mismatches of the header, given the version and the fingerprint in it. -/
def headerViolations (registry : Registry) (stamped? : Option Nat)
    (fingerprint? : Option Fingerprint) : List Violation :=
  (if stamped? = some registry.currentVersion then []
    else [.versionMismatch registry.currentVersion stamped?]) ++
  if fingerprint? = some registry.fingerprint then []
  else
    [.fingerprintMismatch (Text.Hex.encode registry.fingerprint)
      (fingerprint?.map Text.Hex.encode)]

/-- The mismatches of the live schema, which may be absent. -/
def liveViolations (expected : Schema) : Option Schema → List Violation
  | some live => schemaViolations expected live
  | none => [.missingLiveSchema]

/-- The stored entities that are not expected, with their number of records. -/
def orphanViolations (s : Store) (expected : Schema) (stored : List String) : List Violation :=
  (stored.filter fun entity => !expected.hasEntity entity).map fun entity =>
    .orphanedRecords entity (s.count entity)

/-- Every issue of every record of the expected entities. -/
def recordViolations (s : Store) (expected : Schema) : List Violation :=
  expected.entities.toList.flatMap fun (name, e) =>
    (s.scan name).flatMap fun r =>
      (e.issues r).map fun issue => .invalidRecord name r.key.text issue.text

/-- Every mismatch of a store with the current schema of a registry. Records are looked at if
`verifyRecords` is set. Fails if the header, the live schema or a storage key cannot be read. -/
def violations (s : Store) (registry : Registry) (verifyRecords : Bool) :
    Except StoreError (List Violation) := do
  let stamped? ← s.readStamp
  let fingerprint? ← s.readFingerprint
  let live ← s.readSchema
  let stored ← s.storedEntities
  pure (headerViolations registry stamped? fingerprint? ++ liveViolations registry.current live ++
    orphanViolations s registry.current stored ++
    if verifyRecords then recordViolations s registry.current else [])

/-- Fails with every mismatch, if there is any. -/
def check (s : Store) (registry : Registry) (verifyRecords : Bool) : Except MigrationError Unit :=
  match violations s registry verifyRecords with
  | .error e => .error (.storage e)
  | .ok [] => .ok ()
  | .ok found => .error (.violations found)

end Strata.Checker
