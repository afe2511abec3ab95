import Strata.Journal

/-!
# The status of a store

What there is to know about a store at a glance: its version beside the current one, whether its
schema is the current one, how the last run ended, and how many records each entity has.
-/

namespace Strata

/-- How the last run ended. -/
structure LastRun where
  /-- The status of the run. -/
  status : String
  /-- The version the run started from. -/
  fromVersion : Nat
  /-- The version the run went to. -/
  toVersion : Nat
  /-- How many steps were committed. -/
  completedSteps : Nat
  /-- The message of the error that stopped the run. -/
  error? : Option String
  deriving DecidableEq

/-- The status of a store. -/
structure Status where
  /-- The version in the header. -/
  stamped? : Option Nat
  /-- The current version. -/
  current : Nat
  /-- Whether the fingerprint in the header is that of the current schema. -/
  schemaMatches : Bool
  /-- The last run. -/
  lastRun? : Option LastRun
  /-- The stored entities in order, with their numbers of records. -/
  entities : List (String × Nat)
  deriving DecidableEq

namespace Status

/-- Whether the store is not at the current version. -/
def needsMigration (s : Status) : Bool := s.stamped? != some s.current

/-- What a journal tells about its run. -/
def lastRun (j : Journal) : LastRun :=
  ⟨j.status.text, j.fromVersion, j.toVersion, j.completedSteps, j.error?⟩

end Status

end Strata
