/-!
# Failures of files

Why a file cannot be read, or a directory cannot be made.
-/

namespace Strata

/-- Why a path cannot be used. -/
inductive FileError where
  /-- There is nothing at the path. -/
  | missing
  /-- There is something at the path already. -/
  | occupied
  /-- The path leads through something that is no directory. -/
  | notDirectory
  /-- There is a directory at the path. -/
  | isDirectory
  /-- The path, or a name in it, is too long. -/
  | nameTooLong
  /-- The file holds bytes that are no text. -/
  | notText
  /-- Anything else. -/
  | other (reason : String)
  deriving DecidableEq

/-- The wording of a failure. -/
def FileError.text : FileError → String
  | missing => "No such file or directory (os error 2)"
  | occupied => "File exists (os error 17)"
  | notDirectory => "Not a directory (os error 20)"
  | isDirectory => "Is a directory (os error 21)"
  | nameTooLong => "File name too long (os error 36)"
  | notText => "stream did not contain valid UTF-8"
  | other reason => reason

end Strata
