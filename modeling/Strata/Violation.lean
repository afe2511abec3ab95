/-!
# Violations

A violation is one mismatch between a store and the schema that it should have. The list of them is
what a consistency check finds.
-/

namespace Strata

/-- One mismatch between a store and the expected schema. Definitions, keys and issues are held as
they are shown. -/
inductive Violation where
  /-- The header has another version, or none. -/
  | versionMismatch (expected : Nat) (found : Option Nat)
  /-- The header has another fingerprint, or none; both in hexadecimal. -/
  | fingerprintMismatch (expected : String) (found : Option String)
  /-- The store does not describe its schema. -/
  | missingLiveSchema
  /-- An expected entity is absent. -/
  | missingEntity (entity : String)
  /-- An entity is present that is not expected. -/
  | unexpectedEntity (entity : String)
  /-- An expected field is absent. -/
  | missingField (entity field : String)
  /-- A field is present that is not expected. -/
  | unexpectedField (entity field : String)
  /-- A field is defined in another way. -/
  | fieldDefinitionMismatch (entity field expected found : String)
  /-- The fields are the same, in another order. -/
  | fieldOrder (entity : String) (expected found : List String)
  /-- Records are stored under an entity that is not expected. -/
  | orphanedRecords (entity : String) (count : Nat)
  /-- A record does not fit its entity. -/
  | invalidRecord (entity key issue : String)
  deriving DecidableEq

namespace Violation

/-- The wording of a violation. -/
def text : Violation → String
  | versionMismatch expected (some found) =>
    "store is at version " ++ toString found ++ ", expected " ++ toString expected
  | versionMismatch expected none => "store has no version, expected " ++ toString expected
  | fingerprintMismatch expected found =>
    "schema fingerprint " ++ found.getD "(none)" ++ " does not match " ++ expected
  | missingLiveSchema => "store has no live schema"
  | missingEntity entity => "entity " ++ entity ++ " is missing"
  | unexpectedEntity entity => "entity " ++ entity ++ " is not in the registry"
  | missingField entity field => "field " ++ entity ++ "." ++ field ++ " is missing"
  | unexpectedField entity field =>
    "field " ++ entity ++ "." ++ field ++ " is not in the registry"
  | fieldDefinitionMismatch entity field expected found =>
    "field " ++ entity ++ "." ++ field ++ " is \x60" ++ found ++ "\x60, expected \x60" ++
      expected ++ "\x60"
  | fieldOrder entity expected found =>
    "fields of " ++ entity ++ " are ordered [" ++ ", ".intercalate found ++ "], expected [" ++
      ", ".intercalate expected ++ "]"
  | orphanedRecords entity count =>
    toString count ++ " record(s) stored under unknown entity " ++ entity
  | invalidRecord entity key issue => "record " ++ entity ++ " " ++ key ++ ": " ++ issue

/-- Whether a violation is about a single record. -/
def isInvalidRecord : Violation → Bool
  | invalidRecord .. => true
  | _ => false

end Violation

end Strata
