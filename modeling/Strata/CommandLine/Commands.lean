import Strata.CommandLine.Arguments
import Strata.CommandLine.Error
import Strata.Messages.ContactsFile
import Strata.Messages.History
import Strata.Run.ConfigFile

/-!
# Commands

What each command does to a store: the status is put together, the store is checked, run or stamped.
A command gives a result to be shown, and the store that it leaves.
-/

namespace Strata

/-- The status of a store. The journal is read before the records, and the header last. -/
def Store.status (s : Store) (registry : Registry) : Except CommandError Status := do
  let journal ← s.readJournal.mapError .migration
  let entities ← s.storedEntities.mapError .store
  let stamped? ← s.readStamp.mapError .store
  let fingerprint? ← s.readFingerprint.mapError .store
  pure {
    stamped?
    current := registry.currentVersion
    schemaMatches := fingerprint? == some registry.fingerprint
    lastRun? := journal.map Status.lastRun
    entities := entities.map fun entity => (entity, s.count entity) }

namespace CommandLine

/-- The contents of files by path. -/
abbrev Files := String → Except FileError String

/-- No files at all. -/
def noFiles : Files := fun _ => .error .missing

/-- The contents of a file. -/
def readFile (files : Files) (path : String) : Except CommandError String :=
  (files path).mapError (.unreadable path)

/-- The address book in a file. -/
def loadContacts (files : Files) (path : String) : Except CommandError Messages.AddressBook :=
  match readFile files path with
  | .error e => .error e
  | .ok text =>
    match Messages.AddressBook.ofText? text with
    | some book => .ok book
    | none => .error (.malformed "contacts")

/-- The registry of the message store over the address book in a file, or over none. -/
def messageRegistry (files : Files) (contacts? : Option String) : Except CommandError Registry := do
  let lookup ← match contacts? with
    | some path => (loadContacts files path).map (·.lookup)
    | none => .ok Messages.noContacts
  (Messages.registry lookup).mapError .migration

/-- The run configuration in a file, or the standard one, with what the command line asks for. -/
def loadConfig (files : Files) (path? : Option String) (workers? : Option Nat)
    (retryFailed : Bool) : Except CommandError RunConfig := do
  let config ← match path? with
    | none => .ok RunConfig.standard
    | some path =>
      match readFile files path with
      | .error e => .error e
      | .ok text =>
        match RunConfig.ofText? text with
        | some config => .ok config
        | none => .error (.malformed "config")
  pure (config.override workers? retryFailed)

/-- What a command shows, and its exit code. -/
structure Output where
  /-- The text that is printed. -/
  text : String
  /-- The exit code. -/
  code : Nat
  deriving DecidableEq

/-- The sentence that confirms a stamp. -/
def stampedText (version : Nat) : String := "stamped at version " ++ toString version

/-- Carries out a command on a store. The exit code tells whether a check found violations. -/
def perform (files : Files) (registry : Registry) (format : Format) (command : Command)
    (s : Store) : Except CommandError Output × Store :=
  match command with
  | .status => ((s.status registry).map fun status => ⟨format.status status, 0⟩, s)
  | .check schemaOnly =>
    match Checker.violations s registry !schemaOnly with
    | .error e => (.error (.store e), s)
    | .ok found => (.ok ⟨format.violations found, if found.isEmpty then 0 else 1⟩, s)
  | .migrate config? workers? retryFailed =>
    match loadConfig files config? workers? retryFailed with
    | .error e => (.error e, s)
    | .ok config =>
      let run := registry.run config s
      ((run.outcome.mapError .migration).map fun report => ⟨format.report report, 0⟩, run.store)
  | .stamp version =>
    match registry.stamp version s with
    | .error e => (.error (.migration e), s)
    | .ok s => (.ok ⟨format.message (stampedText version), 0⟩, s)

end CommandLine

end Strata
