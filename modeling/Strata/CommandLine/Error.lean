import Strata.Directory.Failure
import Strata.Error

/-!
# Errors of the command line

A command fails because the store or its history refuses, because the store cannot be opened, or
because a file cannot be read or understood.
-/

namespace Strata

/-- Why a command fails. -/
inductive CommandError where
  /-- The store refuses. -/
  | store (error : StoreError)
  /-- The history refuses. -/
  | migration (error : MigrationError)
  /-- The store cannot be opened. -/
  | unopened (failure : FileError)
  /-- A file cannot be read. -/
  | unreadable (path : String) (failure : FileError)
  /-- A file does not hold what it should; `what` names that. -/
  | malformed (what : String)
  deriving DecidableEq

/-- The wording of a command error. -/
def CommandError.message : CommandError → String
  | store e => "store error: " ++ e.message
  | migration e => e.message
  | unopened failure => "store error: storage error: IO error: " ++ failure.text
  | unreadable path failure => "failed to read " ++ path ++ ": " ++ failure.text
  | malformed what => "invalid " ++ what

end Strata
