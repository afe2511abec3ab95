import Strata.CommandLine.Workspace
import Strata.File.Store

/-!
# The program

Reads the files that a command line names, carries the command out, and writes the store back. The
store is kept as a text in the last of its files.
-/

open Strata Strata.CommandLine

/-- What an error of the system says about a path. -/
def fileError : IO.Error → FileError
  | .noFileOrDirectory .. => .missing
  | .alreadyExists .. => .occupied
  | .inappropriateType .. => .isDirectory
  | e => .other (toString e)

/-- The contents of the file at a path. -/
def readText (path : String) : IO (Except FileError String) := do
  try
    return .ok (← IO.FS.readFile path)
  catch e => return .error (fileError e)

/-- The contents of some files. -/
def readTexts (paths : List String) : IO Files := do
  let contents ← paths.mapM fun path => return (path, ← readText path)
  return fun path => (contents.lookup path).getD (.error .missing)

/-- Makes the directory of a store. -/
def makeDirectory (path : String) : IO (Except FileError Unit) := do
  try
    IO.FS.createDirAll (path ++ "/" ++ storeFolder)
    return .ok ()
  catch e => return .error (fileError e)

/-- The store in a file; one that does not exist is created empty. -/
def readStore (file : String) : IO (Except CommandError Store) := do
  match ← readText file with
  | .error .missing => return .ok .empty
  | .error failure => return .error (.unopened failure)
  | .ok text =>
    match Store.ofText? text with
    | some s => return .ok s
    | none => return .error (.malformed "store")

/-- Carries out accepted arguments. -/
def performArguments (args : Arguments) : IO Outcome := do
  match args.registry (← readTexts args.contacts?.toList) with
  | .error e => return .failed e
  | .ok registry =>
    match ← makeDirectory args.path with
    | .error failure => return .failed (.unopened failure)
    | .ok () =>
      let file := args.path ++ "/" ++ storeFiles.getLastD "db"
      match ← readStore file with
      | .error e => return .failed e
      | .ok s =>
        let (outcome, s) := args.carryOut (← readTexts args.configs) registry s
        IO.FS.writeFile file s.toText
        return outcome

/-- Runs the command line. -/
def main (words : List String) : IO UInt32 := do
  let outcome ← match parse? words with
    | none => pure .refused
    | some args => performArguments args
  if let some text := outcome.text? then IO.println text
  if let some text := outcome.complaint? then IO.eprintln text
  return .ofNat outcome.code
