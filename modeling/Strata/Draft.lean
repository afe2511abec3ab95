import Strata.Edit
import Strata.Store.Transaction

/-!
# Drafts

A draft holds the new contents of every table that a step touches, while the store still has the
old ones. A table is taken from the snapshot when it is first touched. New records of entities
without a primary key need row numbers, so the functions that add records run in `Drawing`, which
keeps the counter also when it fails.
-/

namespace Strata

/-- A computation that may fail and may draw row numbers. Numbers drawn before a failure stay
drawn. -/
abbrev Drawing (α : Type) := ExceptT MigrationError (StateM RowCounter) α

/-- Draws the next row number. -/
def Drawing.row : Drawing UInt64 := do
  match (← get).draw? with
  | some (n, rows) =>
    set rows
    pure n
  | none => throw (.storage .rowsExhausted)

/-- The new contents of the tables that a step touches. -/
structure Draft where
  /-- The records before the step. -/
  snapshot : Snapshot
  /-- The touched tables. -/
  tables : Std.ExtTreeMap String Table
  /-- The tables whose old records go. -/
  cleared : Std.ExtTreeSet String
  /-- The keyed records that the transform has emitted so far. -/
  emitted : List (String × Key)
  /-- The number of records added so far. -/
  added : Nat

namespace Draft

/-- The draft in which nothing is touched. -/
def ofSnapshot (snapshot : Snapshot) : Draft := ⟨snapshot, ∅, ∅, [], 0⟩

/-- A table as the draft has it: the touched one, else the one of the snapshot. -/
def table (d : Draft) (entity : String) : Table :=
  d.tables[entity]?.getD (d.snapshot.table entity)

/-- The draft with the contents of a table replaced. -/
def withTable (d : Draft) (entity : String) (t : Table) : Draft :=
  { d with tables := d.tables.insert entity t }

/-- Empties a table for good: its old records are deleted with the step. -/
def clear (d : Draft) (entity : String) : Draft :=
  { d.withTable entity ∅ with cleared := d.cleared.insert entity }

/-- Applies an edit to every record of its entity. -/
def applyEdit (d : Draft) (edit : Edit) : Draft :=
  if edit.touchesRecords then
    d.withTable edit.entity ((d.table edit.entity).map fun _ r => edit.applyToRecord r)
  else d

/-- Puts a changed record back. -/
def put (d : Draft) (entity : String) (r : Record) : Draft :=
  d.withTable entity ((d.table entity).insert r.key r)

/-- Adds a record under its final key, which must be free. -/
def addKeyed (d : Draft) (entity : String) (r : Record) : Except MigrationError Draft :=
  if (d.table entity).contains r.key then .error (.invalidRecord entity r.key "duplicate key")
  else .ok { d.put entity r with added := d.added + 1 }

/-- Adds a new record: an entity without a primary key is given a row number, and defaults are
filled. -/
def add (d : Draft) (schema : Schema) (entity : String) (r : Record) : Drawing Draft :=
  match schema.entity? entity with
  | none => throw (.invalidRecord entity r.key "entity is not in the schema")
  | some e => do
    -- The number is drawn before the key is looked up, and it is lost if the record is refused.
    let r ← if e.isKeyed then pure r else do pure (r.withKey (.row (← Drawing.row)))
    liftExcept (d.addKeyed entity (e.fillDefaults r))
where
  /-- A failure or a result, with no row drawn. -/
  liftExcept (x : Except MigrationError Draft) : Drawing Draft :=
    match x with
    | .ok d => pure d
    | .error e => throw e

/-- Whether records of an entity are keyed by a field. -/
def keyedIn (schema : Schema) (entity : String) : Bool := (schema.entity? entity).any (·.isKeyed)

/-- Adds a record that the transform emitted, and says whether it was kept. Of the records emitted
under one key the first is kept and the others are dropped; a key that a record has which was not
emitted is refused. -/
def emit (d : Draft) (schema : Schema) (entity : String) (r : Record) : Drawing (Draft × Bool) := do
  if keyedIn schema entity then
    if d.emitted.contains (entity, r.key) then pure (d, false)
    else
      let d ← d.add schema entity r
      pure ({ d with emitted := (entity, r.key) :: d.emitted }, true)
  else
    let d ← d.add schema entity r
    pure (d, true)

/-- Adds emitted records in order, and counts those that are dropped. -/
def emitAll (schema : Schema) (d : Draft) (emitted : List (String × Record)) :
    Drawing (Draft × Nat) :=
  emitted.foldlM (fun (d, dropped) (entity, r) => do
    let (d, kept) ← d.emit schema entity r
    pure (d, if kept then dropped else dropped + 1)) (d, 0)

/-- Adds records in order. -/
def addAll (schema : Schema) (d : Draft) (inserts : List (String × Record)) : Drawing Draft :=
  inserts.foldlM (fun d (entity, r) => d.add schema entity r) d

/-- The error for the first issue of a record. A required field that a transform left open is told
apart from other defects. -/
def issueError (entity : String) (transformed : Option String) (r : Record) :
    Issue → MigrationError
  | .missingField field =>
    if transformed = some entity then .incompleteTransform entity r.key field
    else .invalidRecord entity r.key (Issue.missingField field).text
  | .nullRequired field =>
    if transformed = some entity then .incompleteTransform entity r.key field
    else .invalidRecord entity r.key (Issue.nullRequired field).text
  | issue => .invalidRecord entity r.key issue.text

/-- Refuses a record that does not fit its entity. -/
def checkRecord (entity : String) (e : Entity) (transformed : Option String) (r : Record) :
    Except MigrationError Unit :=
  match e.issues r with
  | [] => .ok ()
  | issue :: _ => .error (issueError entity transformed r issue)

/-- Refuses a touched table that holds a record that does not fit. -/
def checkTable (schema : Schema) (transformed : Option String) (entity : String) (t : Table) :
    Except MigrationError Unit :=
  match schema.entity? entity with
  | none => .error (.schemaInconsistency schema.version entity "unknown entity")
  | some e => t.values.forM (checkRecord entity e transformed)

/-- Checks every record of every touched table, in order, up to the first that does not fit. -/
def validate (d : Draft) (schema : Schema) (transformed : Option String) :
    Except MigrationError Unit :=
  d.tables.toList.forM fun (entity, t) => checkTable schema transformed entity t

/-- The old records of cleared tables whose keys are not used again. -/
def deletions (d : Draft) : List Write :=
  d.cleared.toList.flatMap fun entity =>
    ((d.snapshot.keys entity).filter fun key => !(d.table entity).contains key).map (.delete entity)

/-- Every record of every touched table. -/
def puts (d : Draft) : List Write :=
  d.tables.toList.flatMap fun (entity, t) => t.values.map (.put entity)

end Draft

end Strata
