import Strata.Phase
import Strata.Run.Plan
import Strata.Store.Checker

/-!
# Runs

A run brings a store to the current version of a registry, one step at a time, and commits each step
together with its new version and the journal. Before the first step it writes a journal of the
steps to come; after the last it checks the store and closes the journal. A step that fails leaves
the store as the step before it left it, with the failure in the journal, and the store is refused
from then on unless the run is told to try again.

A run is described by what it did: its events, in order, are the phases it went through and the
store after every write. Cutting a run off leaves the store of the last write before the cut.
-/

namespace Strata

/-- How a run is carried out. -/
structure RunConfig where
  /-- How transforms are divided among workers. -/
  pass : PassConfig
  /-- Whether the final check looks at every record. -/
  verifyRecords : Bool
  /-- Whether a store whose last run failed is run again. -/
  retryFailed : Bool
  deriving DecidableEq, Inhabited

/-- The machine's workers, a full check, and no second try. -/
def RunConfig.standard : RunConfig := ⟨.standard, true, false⟩

/-- One thing that a run did. -/
inductive Event where
  /-- The store was written; this is what it holds afterwards. -/
  | wrote (store : Store)
  /-- The phase was set, whatever it was before. -/
  | entered (phase : Phase)
  /-- The phase moved on from the one before. -/
  | advanced (phase : Phase)
  deriving DecidableEq

/-- What a run did and how it ended. -/
structure Run where
  /-- What the run did, in order. -/
  events : List Event
  /-- The report, or the error that stopped the run. -/
  outcome : Except MigrationError RunReport
  /-- The store at the end. Row numbers drawn by a step that failed are drawn here too. -/
  store : Store

namespace Run

/-- A run that did some things before. -/
def after (events : List Event) (r : Run) : Run := { r with events := events ++ r.events }

/-- The phase after an event. -/
def phaseAfter (phase : Phase) : Event → Phase
  | .wrote _ => phase
  | .entered p | .advanced p => p

/-- The phase at the end of a run that began in a phase. -/
def phase (r : Run) (start : Phase) : Phase := r.events.foldl phaseAfter start

/-- The stores after each write, in order. -/
def writes (r : Run) : List Store :=
  r.events.filterMap fun
    | .wrote s => some s
    | _ => none

end Run

namespace Registry

/-- The phase of a run before it has begun. -/
def startPhase (registry : Registry) : Phase := .idle registry.baselineVersion

/-- Adopts a store without a version: stamps it at a version of the history, with the schema of that
version. Records that are there already are not looked at. -/
def stamp (registry : Registry) (version : Nat) (s : Store) : Except MigrationError Store :=
  match s.readStamp with
  | .error e => .error (.storage e)
  | .ok (some stamped) =>
    .error (.blocked ("store is already stamped at version " ++ toString stamped))
  | .ok none =>
    match registry.schemaAt? version with
    | none => .error (.missingStep version)
    | some schema => .ok (s.commit ((Transaction.empty.setSchema schema).stamp version))

/-- Sets up a store without records at the current version. -/
def setUp (registry : Registry) (s : Store) : Run :=
  let target := registry.currentVersion
  let journal := (Journal.begin target target).complete
  let s := s.commit
    (((Transaction.empty.setSchema registry.current).stamp target).setJournal (.readable journal))
  ⟨[.wrote s, .entered .finished], .ok { RunReport.unchanged target with initialized := true }, s⟩

/-- Plans a step and commits the plan with the journal. On failure only row numbers are used up. -/
def commitStep (config : PassConfig) (step : Step) (live next : Schema) (journal : Journal)
    (s : Store) : Except MigrationError (StepReport × Journal) × Store :=
  match (step.plan live next config s).run.run s.rows with
  -- The numbers that a failed plan drew stay drawn.
  | (.error e, rows) => (.error e, { s with rows })
  | (.ok plan, rows) =>
    let journal := journal.completeStep step.source plan.report.written plan.report.fallbacks
    (.ok (plan.report, journal),
      { s with rows }.commit (plan.transaction.setJournal (.readable journal)))

/-- Takes a step. The stored schema must be the one that the registry has for the version, going by
the fingerprint in the header. -/
def applyStep (registry : Registry) (config : PassConfig) (step : Step) (journal : Journal)
    (s : Store) : Except MigrationError (StepReport × Journal) × Store :=
  match registry.schemaAt? step.source, registry.schemaAt? step.target with
  | some live, some next =>
    match s.readFingerprint with
    | .error e => (.error (.storage e), s)
    | .ok found =>
      if found = some live.fingerprint then commitStep config step live next journal s
      else
        (.error (.schemaInconsistency step.source "live schema"
          "stored schema does not match the registry at this version"), s)
  | _, _ => (.error (.missingStep step.source), s)

/-- Takes the step from a version. -/
def stepFrom (registry : Registry) (config : PassConfig) (version : Nat) (journal : Journal)
    (s : Store) : Except MigrationError (StepReport × Journal) × Store :=
  match registry.stepFor? version with
  | none => (.error (.missingStep version), s)
  | some step => registry.applyStep config step journal s

/-- Ends a run on an error, which the journal keeps. -/
def stop (journal : Journal) (e : MigrationError) (s : Store) : Run :=
  let s := s.writeJournal (journal.fail e.message)
  ⟨[.wrote s, .advanced .failed], .error e, s⟩

/-- Ends a run that has taken all its steps: checks the store and closes the journal. -/
def conclude (registry : Registry) (config : RunConfig) (journal : Journal)
    (reports : List StepReport) (s : Store) : Run :=
  match Checker.check s registry config.verifyRecords with
  | .error e => (stop journal e s).after [.advanced .validating]
  | .ok () =>
    let s := s.writeJournal journal.complete
    ⟨[.advanced .validating, .wrote s, .advanced .finished],
      .ok ⟨journal.fromVersion, journal.toVersion, false, reports⟩, s⟩

/-- Takes a number of steps from a version on, and then concludes the run. -/
def walk (registry : Registry) (config : RunConfig) :
    Nat → Nat → Journal → List StepReport → Store → Run
  | 0, _, journal, reports, s => registry.conclude config journal reports s
  | steps + 1, version, journal, reports, s =>
    match registry.stepFrom config.pass version journal s with
    | (.error e, s) => stop (journal.failStep version e.message) e s
    | (.ok (report, journal), s) =>
      (registry.walk config steps (version + 1) journal (reports ++ [report]) s).after
        [.wrote s, .advanced (.stepping (version + 1) registry.currentVersion)]

/-- Takes a store from an older version to the current one. -/
def migrate (registry : Registry) (config : RunConfig) (version : Nat) (s : Store) : Run :=
  let target := registry.currentVersion
  let journal := Journal.begin version target
  let s := s.writeJournal journal
  (registry.walk config (target - version) version journal [] s).after
    [.wrote s, .advanced (.stepping version target)]

/-- Whether a journal keeps a store from being run. -/
def blocks (config : RunConfig) (journal : Option Journal) : Option Journal :=
  journal.filter fun j => j.isFailed && !config.retryFailed

/-- Runs a store that is stamped at a version. -/
def runFrom (registry : Registry) (config : RunConfig) (version : Nat) (s : Store) : Run :=
  if registry.currentVersion < version then
    ⟨[.advanced .failed], .error (.storeAhead version registry.currentVersion), s⟩
  else
    match s.readJournal with
    | .error e => ⟨[], .error e, s⟩
    | .ok journal =>
      match blocks config journal with
      | some j =>
        ⟨[.advanced .failed],
          .error (.blocked ("last migration from v" ++ toString j.fromVersion ++ " failed: " ++
            j.reason)), s⟩
      | none =>
        if version = registry.currentVersion then
          ⟨[.advanced .finished], .ok (.unchanged version), s⟩
        else registry.migrate config version s

/-- Brings a store to the current version. A store without records and version is set up there; one
with records and no version is refused. -/
def run (registry : Registry) (config : RunConfig) (s : Store) : Run :=
  match s.readStamp with
  -- No phase is set here, not even that of a failed run.
  | .error e => ⟨[], .error (.storage e), s⟩
  | .ok none =>
    if s.hasRecords then ⟨[.entered .failed], .error .uninitialized, s⟩
    else registry.setUp s
  | .ok (some version) => (registry.runFrom config version s).after [.entered (.idle version)]

end Registry

end Strata
