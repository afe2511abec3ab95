import Strata.Key
import Strata.Violation

/-!
# Errors

Why a store refuses a request (`StoreError`), and why a history cannot be assembled or run
(`MigrationError`). The first four migration errors are defects of a history and are found before a
store is opened; `isBuildError` tells them from the rest. The wording of every error is in
`message`.
-/

namespace Strata

/-- Why a store refuses a request. -/
inductive StoreError where
  /-- A stored key cannot be read back. -/
  | invalidKey
  /-- A record with the key exists. -/
  | duplicateKey (entity : String) (key : Key)
  /-- The entity is not part of the schema. -/
  | unknownEntity (entity : String)
  /-- The data does not fit. -/
  | invalidData (reason : String)
  /-- The stored schema cannot be read back. -/
  | schemaUnreadable
  /-- Every row number has been handed out. -/
  | rowsExhausted
  deriving DecidableEq

/-- The wording of a store error. -/
def StoreError.message : StoreError → String
  | invalidKey => "invalid key format"
  | duplicateKey entity key => "duplicate key " ++ key.text ++ " in " ++ entity
  | unknownEntity entity => "unknown entity type: " ++ entity
  | invalidData reason => "invalid data: " ++ reason
  | schemaUnreadable => "deserialization error: schema without entities"
  | rowsExhausted => "storage error: row numbers exhausted"

/-- Why a history cannot be assembled, or a store cannot be brought along it. -/
inductive MigrationError where
  /-- Two steps start from one version. -/
  | duplicateVersion (version : Nat)
  /-- A required field is added without a value for existing records. -/
  | missingDefault (version : Nat) (entity field : String)
  /-- A step creates an entity that exists. -/
  | duplicateTable (version : Nat) (entity : String)
  /-- A step does not fit the schema that it is applied to. -/
  | schemaInconsistency (version : Nat) (location reason : String)
  /-- No step starts from a version that the store has to pass. -/
  | missingStep (version : Nat)
  /-- A transform left a required field without a value. -/
  | incompleteTransform (entity : String) (key : Key) (field : String)
  /-- A step produced a record that does not fit its entity. -/
  | invalidRecord (entity : String) (key : Key) (reason : String)
  /-- A transform or a preference revision gave up. -/
  | transform (entity reason : String)
  /-- The final check found mismatches. -/
  | violations (found : List Violation)
  /-- The store is newer than the history. -/
  | storeAhead (stamped target : Nat)
  /-- The store holds records and no version. -/
  | uninitialized
  /-- The store must not be used. -/
  | blocked (reason : String)
  /-- The stored journal cannot be read. -/
  | journalCorrupted
  /-- The store refused. -/
  | storage (error : StoreError)
  deriving DecidableEq

namespace MigrationError

/-- The wording of a migration error. -/
def message : MigrationError → String
  | duplicateVersion v => "duplicate migration step for source version " ++ toString v
  | missingDefault v entity field =>
    "required field " ++ entity ++ "." ++ field ++ " added at version " ++ toString v ++
      " without a default"
  | duplicateTable v entity =>
    "table " ++ entity ++ " created at version " ++ toString v ++ " already exists"
  | schemaInconsistency v location reason =>
    "schema inconsistency at version " ++ toString v ++ " in " ++ location ++ ": " ++ reason
  | missingStep v => "no migration step for source version " ++ toString v
  | incompleteTransform entity key field =>
    "transform left " ++ entity ++ " " ++ key.text ++ " without required field " ++ field
  | invalidRecord entity key reason =>
    "invalid record " ++ entity ++ " " ++ key.text ++ ": " ++ reason
  | transform entity reason => "transform of " ++ entity ++ " failed: " ++ reason
  | violations found =>
    "consistency check failed with " ++ toString found.length ++ " violation(s)"
  | storeAhead stamped target =>
    "store is stamped at version " ++ toString stamped ++ ", ahead of engine version " ++
      toString target
  | uninitialized => "store holds records but has no schema version"
  | blocked reason => "store is blocked: " ++ reason
  | journalCorrupted => "migration journal corrupted"
  | storage error => "storage error: " ++ error.message

/-- Whether an error is a defect of the history itself. -/
def isBuildError : MigrationError → Bool
  | duplicateVersion _ | missingDefault .. | duplicateTable .. | schemaInconsistency .. => true
  | _ => false

end MigrationError

end Strata
