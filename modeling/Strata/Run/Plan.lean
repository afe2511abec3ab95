import Strata.Draft
import Strata.Registry
import Strata.Run.Report
import Strata.Transform.Pass

/-!
# Plans

A plan is what a step will do to a store: the writes to commit and the report on them. It is worked
out on a draft, without touching the store, in the order that steps prescribe. Planning draws row
numbers, and the numbers stay drawn when it fails.
-/

namespace Strata

/-- What a step will do: the transaction, without the journal, and the report. -/
structure Plan where
  /-- The writes, the schema and the version to commit. -/
  transaction : Transaction
  /-- The report on the step. -/
  report : StepReport

namespace Step

/-- The draft after the clears and the edits of a step. -/
def edited (step : Step) (snapshot : Snapshot) : Draft :=
  step.edits.foldl Draft.applyEdit (step.clears.foldl Draft.clear (.ofSnapshot snapshot))

/-- Puts the outputs of a transform into the draft one after the other: the changed record, which
must have kept its key, and then the records it emitted. Counts the records that are dropped. -/
def settle (next : Schema) (entity : String) (d : Draft) (outputs : List (Key × Transform.Output)) :
    Drawing (Draft × Nat) :=
  outputs.foldlM (fun (d, dropped) (key, output) => do
    if output.record.key ≠ key then
      throw (.invalidRecord entity key "transform changed the record key")
    let (d, more) ← (d.put entity output.record).emitAll next output.emitted
    pure (d, dropped + more)) (d, 0)

/-- Runs the transform of a step over its entity. Gives the draft, the number of records that went
through, and the fallbacks: those taken and the records dropped. -/
def transformed (step : Step) (next : Schema) (config : PassConfig) (d : Draft) :
    Drawing (Draft × Nat × Nat) :=
  match step.transform? with
  | none => pure (d, 0, 0)
  | some (entity, t) =>
    let records := (d.table entity).values
    match t.runPass ⟨d.snapshot, entity⟩ config records with
    | .error e => throw e
    | .ok outputs => do
      let (d, dropped) ←
        settle next entity (d.withTable entity ∅) ((records.map (·.key)).zip outputs)
      pure (d, records.length, Transform.totalFallbacks outputs + dropped)

/-- The preference edits of a step. -/
def preferenceEdits (step : Step) (snapshot : Snapshot) (current : Preferences) :
    Except MigrationError (Std.ExtTreeMap String (Option Value)) :=
  match step.revision? with
  | none => .ok ∅
  | some revision => (revision snapshot (.ofCurrent current)).map (·.pending)

/-- The write that commits a preference edit. -/
def preferenceWrite (edit : String × Option Value) : Write :=
  match edit.2 with
  | some value => .setPreference edit.1 value
  | none => .deletePreference edit.1

/-- The plan of a step between the schemas `live` and `next`. Planning measures no time. -/
def plan (step : Step) (live next : Schema) (config : PassConfig) (s : Store) : Drawing Plan := do
  let snapshot := s.snapshot live
  let (d, transformed, fallbacks) ← step.transformed next config (step.edited snapshot)
  let d ← d.addAll next step.inserts
  match d.validate next (step.transform?.map (·.1)) with
  | .error e => throw e
  | .ok () =>
    match step.preferenceEdits snapshot s.preferences with
    | .error e => throw e
    | .ok edits =>
      -- Deletions come first: a key that a cleared table uses again must stay.
      let deletions := d.deletions
      let puts := d.puts
      pure
        { transaction :=
            { writes := deletions ++ puts ++ edits.toList.map preferenceWrite
              schema? := some next
              version? := some step.target
              journal? := none }
          report :=
            { source := step.source
              target := step.target
              description := step.description
              transformed
              added := d.added
              written := puts.length
              deleted := deletions.length
              preferences := edits.size
              fallbacks
              elapsedMs := 0 } }

end Step

end Strata
