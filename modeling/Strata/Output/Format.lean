import Strata.Output.Json
import Strata.Text.Grid

/-!
# Showing results

Results are shown as tables and short sentences for a reader, or as JSON for a program.
-/

namespace Strata

/-- How results are shown. -/
inductive Format where
  /-- Tables and sentences. -/
  | table
  /-- Indented JSON; messages stand on one line. -/
  | json
  deriving DecidableEq, Inhabited

namespace Format

open Text (Grid)

/-- A version as it is shown. -/
def version (v : Nat) : String := "v" ++ toString v

/-- The two versions of a step or a run. -/
def versions (source target : Nat) : String := version source ++ " -> " ++ version target

/-- The rows on the last run in the table of a status. -/
def lastRunRows : Option LastRun → List (List String)
  | none => [["Last run", "none"]]
  | some r =>
    ["Last run", r.status ++ " (" ++ versions r.fromVersion r.toVersion ++ ", " ++
      toString r.completedSteps ++ " step(s))"] ::
    match r.error? with
    | some e => [["Last error", e]]
    | none => []

/-- The table with the header and the last run of a store. -/
def statusSummary (s : Status) : Grid where
  header? := none
  rows := [
    ["Stamped version", (s.stamped?.map version).getD "unversioned"],
    ["Current version", version s.current],
    ["Schema matches", Json.boolText s.schemaMatches]] ++ lastRunRows s.lastRun?

/-- The table of stored entities. -/
def entityTable (entities : List (String × Nat)) : Grid where
  header? := some ["Entity", "Records"]
  rows := entities.map fun (entity, count) => [entity, toString count]

/-- A status in tables; the second is left out if there are no records. -/
def statusTables (s : Status) : String :=
  (statusSummary s).render ++
    if s.entities.isEmpty then "" else "\n\n" ++ (entityTable s.entities).render

/-- The table of the steps of a run. -/
def stepTable (steps : List StepReport) : Grid where
  header? := some ["Step", "Description", "Transformed", "Added", "Written", "Deleted", "Prefs",
    "Fallbacks", "ms"]
  rows := steps.map fun r => [versions r.source r.target, r.description, toString r.transformed,
    toString r.added, toString r.written, toString r.deleted, toString r.preferences,
    toString r.fallbacks, toString r.elapsedMs]

/-- A run report in a table, or in a sentence if no step was taken. -/
def reportTable (r : RunReport) : String :=
  if r.initialized then "Initialized empty store at " ++ version r.toVersion
  else if r.isNoop then "Store is current at " ++ version r.toVersion
  else
    (stepTable r.steps).render ++ "\nMigrated " ++ versions r.fromVersion r.toVersion ++ " (" ++
      toString r.totalFallbacks ++ " fallback(s))"

/-- Violations in a table, numbered from one, or in a sentence if there are none. -/
def violationTable (found : List Violation) : String :=
  if found.isEmpty then "Store is consistent"
  else
    let rows := found.zipIdx.map fun (v, i) => [toString (i + 1), v.text]
    (Grid.mk (some ["#", "Violation"]) rows).render ++ "\n" ++ toString found.length ++
      " violation(s)"

/-- A status as it is shown. -/
def status : Format → Status → String
  | table, s => statusTables s
  | json, s => s.toJson.pretty

/-- A run report as it is shown. -/
def report : Format → RunReport → String
  | table, r => reportTable r
  | json, r => r.toJson.pretty

/-- Violations as they are shown. -/
def violations : Format → List Violation → String
  | table, found => violationTable found
  | json, found => (Json.list (found.map Violation.toJson)).pretty

/-- A message as it is shown. -/
def message : Format → String → String
  | table, m => m
  | json, m => (Json.object [("message", .str m)]).compact

end Format

end Strata
