import Strata.Schema.Fingerprint
import Strata.Step

/-!
# Registries

A registry is a history that has been checked: a baseline schema, the steps by the version they
start from, and the schema that they lead to at every version on the way. `Registry.build` replays
the edits of every step over the baseline and refuses a history with a defect, so that a defect is
found before any store is opened.

Versions may be skipped. The schema at the near side of a gap is the schema at its far side; a store
inside the gap cannot be run.
-/

namespace Strata

/-- The steps of a history and the schema at each of its versions. -/
structure Registry where
  /-- The steps by source version. -/
  steps : Std.ExtTreeMap Nat Step
  /-- The schemas by version. -/
  schemas : Std.ExtTreeMap Nat Schema
  /-- The schema that every store is brought to. -/
  current : Schema

namespace Registry

/-- The steps by source version, unless two share one. -/
def indexSteps (steps : List Step) : Except MigrationError (Std.ExtTreeMap Nat Step) :=
  steps.foldlM (fun index step =>
    if index.contains step.source then .error (.duplicateVersion step.source)
    else .ok (index.insert step.source step)) ∅

/-- Refuses to clear a table that does not exist. -/
def checkClears (schema : Schema) (step : Step) : Except MigrationError Unit :=
  step.clears.forM fun entity =>
    if schema.hasEntity entity then .ok ()
    else .error (.schemaInconsistency step.source entity "cleared table does not exist")

/-- Refuses more than one transform, and a transform of an entity that does not exist. -/
def checkTransforms (schema : Schema) (step : Step) : Except MigrationError Unit :=
  if 1 < step.transforms.length then
    .error (.schemaInconsistency step.source step.description
      "step declares more than one transform")
  else match step.transform? with
    | some (entity, _) =>
      if schema.hasEntity entity then .ok ()
      else .error (.schemaInconsistency step.source entity "transform targets an unknown entity")
    | none => .ok ()

/-- Refuses an inserted record of an entity that does not exist, or with a field that it does not
define. -/
def checkInserts (schema : Schema) (step : Step) : Except MigrationError Unit :=
  step.inserts.forM fun (entity, r) =>
    match schema.entity? entity with
    | none => .error (.schemaInconsistency step.source entity "insert into unknown entity")
    | some e =>
      r.fields.keys.forM fun name =>
        if e.hasField name then .ok ()
        else
          .error (.schemaInconsistency step.source (Edit.place entity name)
            "inserted record sets an undefined field")

/-- The schema after the edits of a step, all of whose parts must fit. -/
def replay (schema : Schema) (step : Step) : Except MigrationError Schema := do
  checkClears schema step
  let next ← Edit.applyAll step.edits schema step.clears step.source
  checkTransforms next step
  checkInserts next step
  pure next

/-- The schema at a later version without a step in between. -/
def atVersion (schema : Schema) (version : Nat) : Schema := { schema with version }

/-- One step of the replay. The pair holds the schemas so far and the last of them. A step beyond
the last schema's version leaves a gap, and the schema is carried over it. -/
def extend (state : Std.ExtTreeMap Nat Schema × Schema) (step : Step) :
    Except MigrationError (Std.ExtTreeMap Nat Schema × Schema) :=
  let (schemas, schema) := state
  if step.source < schema.version then
    .error (.schemaInconsistency step.source step.description
      ("step predates the baseline at version " ++ toString schema.version))
  else do
    let source := atVersion schema step.source
    let next ← replay source step
    let next := atVersion next step.target
    pure ((schemas.insert step.source source).insert step.target next, next)

/-- The registry of a baseline and a list of steps in any order. -/
def build (baseline : Schema) (steps : List Step) : Except MigrationError Registry := do
  let index ← indexSteps steps
  let (schemas, current) ←
    index.values.foldlM extend ((∅ : Std.ExtTreeMap Nat Schema).insert baseline.version baseline,
      baseline)
  pure ⟨index, schemas, current⟩

/-- The version that every store is brought to. -/
def currentVersion (r : Registry) : Nat := r.current.version

/-- The oldest version that the registry describes. -/
def baselineVersion (r : Registry) : Nat := r.schemas.minKey?.getD r.current.version

/-- The schema at a version that the history passes. -/
def schemaAt? (r : Registry) (version : Nat) : Option Schema := r.schemas[version]?

/-- The step that starts from a version. -/
def stepFor? (r : Registry) (version : Nat) : Option Step := r.steps[version]?

/-- The fields of an entity at the current version. -/
def definition? (r : Registry) (entity : String) : Option (List Field) :=
  (r.current.entity? entity).map (·.fields)

/-- The fingerprint of the current schema. -/
def fingerprint (r : Registry) : Fingerprint := r.current.fingerprint

end Registry

end Strata
