import Strata.Json.Printer
import Strata.Phase
import Strata.Run.Report
import Strata.Status
import Strata.Violation

/-!
# Results in JSON

The JSON forms of the results that are shown: the status of a store, the report of a run, violations
and plain messages.
-/

namespace Strata

/-- The JSON form of a violation: its kind with what it is about. -/
def Violation.toJson : Violation → Json
  | versionMismatch expected found =>
    .object [("version_mismatch",
      .object [("expected", .nat expected), ("found", .ofOption .nat found)])]
  | fingerprintMismatch expected found =>
    .object [("fingerprint_mismatch",
      .object [("expected", .str expected), ("found", .ofOption .str found)])]
  | missingLiveSchema => .str "missing_live_schema"
  | missingEntity entity => .object [("missing_entity", .str entity)]
  | unexpectedEntity entity => .object [("unexpected_entity", .str entity)]
  | missingField entity field =>
    .object [("missing_field", .object [("entity", .str entity), ("field", .str field)])]
  | unexpectedField entity field =>
    .object [("unexpected_field", .object [("entity", .str entity), ("field", .str field)])]
  | fieldDefinitionMismatch entity field expected found =>
    .object [("field_definition_mismatch", .object [
      ("entity", .str entity), ("field", .str field),
      ("expected", .str expected), ("found", .str found)])]
  | fieldOrder entity expected found =>
    .object [("field_order", .object [
      ("entity", .str entity), ("expected", .strs expected), ("found", .strs found)])]
  | orphanedRecords entity count =>
    .object [("orphaned_records", .object [("entity", .str entity), ("count", .nat count)])]
  | invalidRecord entity key issue =>
    .object [("invalid_record", .object [
      ("entity", .str entity), ("key", .str key), ("issue", .str issue)])]

/-- The JSON form of a phase: its name, with what it is about if there is anything. -/
def Phase.toJson : Phase → Json
  | idle version => .object [("idle", .object [("at", .nat version)])]
  | stepping version target =>
    .object [("stepping", .object [("at", .nat version), ("target", .nat target)])]
  | validating => .str "validating"
  | finished => .str "done"
  | failed => .str "failed"

/-- The JSON form of a last run. -/
def LastRun.toJson (r : LastRun) : Json :=
  .object [
    ("status", .str r.status),
    ("from_version", .nat r.fromVersion),
    ("to_version", .nat r.toVersion),
    ("completed_steps", .nat r.completedSteps),
    ("error", .ofOption .str r.error?)]

/-- The JSON form of a status. -/
def Status.toJson (s : Status) : Json :=
  .object [
    ("stamped_version", .ofOption .nat s.stamped?),
    ("current_version", .nat s.current),
    ("schema_matches", .bool s.schemaMatches),
    ("last_run", .ofOption LastRun.toJson s.lastRun?),
    ("entities", .list (s.entities.map fun (entity, count) =>
      .object [("entity", .str entity), ("records", .nat count)]))]

/-- The JSON form of a step report. -/
def StepReport.toJson (r : StepReport) : Json :=
  .object [
    ("source_version", .nat r.source),
    ("target_version", .nat r.target),
    ("description", .str r.description),
    ("records_transformed", .nat r.transformed),
    ("records_added", .nat r.added),
    ("records_written", .nat r.written),
    ("records_deleted", .nat r.deleted),
    ("preferences_changed", .nat r.preferences),
    ("fallbacks", .nat r.fallbacks),
    ("elapsed_ms", .nat r.elapsedMs)]

/-- The JSON form of a run report. -/
def RunReport.toJson (r : RunReport) : Json :=
  .object [
    ("from_version", .nat r.fromVersion),
    ("to_version", .nat r.toVersion),
    ("initialized", .bool r.initialized),
    ("steps", .list (r.steps.map StepReport.toJson))]

end Strata
