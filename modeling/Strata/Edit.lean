import Strata.Error
import Strata.Schema.Basic

/-!
# Structural edits

An edit changes the shape of one entity: a field is added or removed, or a table is created.
`Edit.apply` changes the schema, and refuses an edit that does not fit it; `Edit.applyToRecord`
changes the records of the entity to match.
-/

namespace Strata

/-- A change of the shape of one entity. -/
inductive Edit where
  /-- A field is added; existing records receive its default. -/
  | addField (entity : String) (field : Field)
  /-- A field is removed from the entity and its records. -/
  | removeField (entity field : String)
  /-- An entity is created without records. -/
  | createTable (entity : Entity)
  /-- A field that refers to records is added. Whether the records exist is not checked. -/
  | addReference (entity : String) (field : Field)
  deriving DecidableEq

namespace Edit

/-- The entity that an edit changes. -/
def entity : Edit → String
  | addField entity _ | removeField entity _ | addReference entity _ => entity
  | createTable e => e.name

/-- Whether an edit changes existing records. -/
def touchesRecords : Edit → Bool
  | createTable _ => false
  | _ => true

/-- The place of a field in messages. -/
def place (entity field : String) : String := entity ++ "." ++ field

/-- Refuses a field that refers to an entity that does not exist. An entity may refer to itself,
also while it is created. -/
def checkTarget (schema : Schema) (owner : String) (field : Field) (version : Nat) :
    Except MigrationError Unit :=
  match field.type.target? with
  | some target =>
    if target = owner || schema.hasEntity target then .ok ()
    else
      .error (.schemaInconsistency version (place owner field.name)
        ("references unknown entity " ++ target))
  | none => .ok ()

/-- Refuses a primary key for an entity that has one, or whose records stay. -/
def checkPrimaryKey (e : Entity) (entity : String) (field : Field) (cleared : List String)
    (version : Nat) : Except MigrationError Unit :=
  if e.isKeyed then
    .error (.schemaInconsistency version (place entity field.name)
      "entity already has a primary key")
  else if !cleared.contains entity then
    .error (.schemaInconsistency version (place entity field.name)
      "primary key added without clearing the table first")
  else .ok ()

/-- Refuses a field that gives existing records no value, or one that it does not admit. -/
def checkDefault (entity : String) (field : Field) (version : Nat) : Except MigrationError Unit :=
  match field.effectiveDefault? with
  | some value =>
    if field.admits value then .ok ()
    else if value.isNull then .error (.missingDefault version entity field.name)
    else
      .error (.schemaInconsistency version (place entity field.name)
        ("default " ++ value.spelled ++ " does not fit " ++ field.type.text))
  | none => .error (.missingDefault version entity field.name)

/-- Adds a field to an entity of the schema. `cleared` names the tables that the same step empties;
only those may be given a primary key. -/
def insertField (schema : Schema) (entity : String) (field : Field) (cleared : List String)
    (version : Nat) : Except MigrationError Schema :=
  match schema.entity? entity with
  | none => .error (.schemaInconsistency version entity "unknown entity")
  | some e =>
    if e.hasField field.name then
      .error (.schemaInconsistency version (place entity field.name) "field already exists")
    else do
      if field.primaryKey then checkPrimaryKey e entity field cleared version
      else checkDefault entity field version
      pure { schema with entities := schema.entities.insert entity (e.addField field) }

/-- Removes a field of an entity of the schema, unless it is the primary key. -/
def dropField (schema : Schema) (entity field : String) (version : Nat) :
    Except MigrationError Schema :=
  match schema.entity? entity with
  | none => .error (.schemaInconsistency version entity "unknown entity")
  | some e =>
    match e.field? field with
    | none =>
      .error (.schemaInconsistency version (place entity field) "field does not exist")
    | some existing =>
      if existing.primaryKey then
        .error (.schemaInconsistency version (place entity field)
          "cannot remove the primary key")
      else .ok { schema with entities := schema.entities.insert entity (e.removeField field) }

/-- Checks the fields of a new entity in order. `seen` names the fields before. -/
def checkFields (schema : Schema) (owner : String) (version : Nat) :
    List String → List Field → Except MigrationError Unit
  | _, [] => .ok ()
  | seen, f :: rest =>
    if seen.contains f.name then
      .error (.schemaInconsistency version (place owner f.name) "field declared twice")
    else if f.primaryKey && f.type.target?.isSome then
      .error (.schemaInconsistency version (place owner f.name)
        "primary key cannot be a reference")
    else do
      checkTarget schema owner f version
      checkFields schema owner version (f.name :: seen) rest

/-- Creates an entity that does not exist yet, with at most one primary key. -/
def insertTable (schema : Schema) (e : Entity) (version : Nat) : Except MigrationError Schema :=
  if schema.hasEntity e.name then .error (.duplicateTable version e.name)
  else do
    checkFields schema e.name version [] e.fields
    if 1 < e.fields.countP (·.primaryKey) then
      .error (.schemaInconsistency version e.name "more than one primary key")
    else pure (schema.withEntity e)

/-- The schema after an edit by the step from `version`, which empties the tables in `cleared`. -/
def apply (edit : Edit) (schema : Schema) (cleared : List String) (version : Nat) :
    Except MigrationError Schema :=
  match edit with
  | addField entity field => do
    checkTarget schema entity field version
    insertField schema entity field cleared version
  | addReference entity field =>
    if field.type.target?.isNone then
      .error (.schemaInconsistency version (place entity field.name)
        ("reference field has non-reference type " ++ field.type.text))
    else do
      checkTarget schema entity field version
      insertField schema entity field cleared version
  | removeField entity field => dropField schema entity field version
  | createTable e => insertTable schema e version

/-- The schema after edits one after the other, up to the first that is refused. -/
def applyAll (edits : List Edit) (schema : Schema) (cleared : List String) (version : Nat) :
    Except MigrationError Schema :=
  edits.foldlM (fun s edit => edit.apply s cleared version) schema

/-- A record of the edited entity after the edit. -/
def applyToRecord (edit : Edit) (r : Record) : Record :=
  match edit with
  | addField _ field | addReference _ field =>
    match field.effectiveDefault? with
    | some value => r.set field.name value
    | none => r
  | removeField _ field => r.remove field
  | createTable _ => r

/-- The wording of an edit. -/
def text : Edit → String
  | addField entity field => "add " ++ entity ++ "." ++ field.text
  | removeField entity field => "remove " ++ entity ++ "." ++ field
  | createTable e => "create " ++ e.name
  | addReference entity field => "add reference " ++ entity ++ "." ++ field.text

end Edit

end Strata
