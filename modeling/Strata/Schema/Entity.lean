import Strata.Record
import Strata.Schema.Field

/-!
# Entities

An entity is a table: a name and its fields in order. `Entity.issues` lists every way in which a
record fails to fit its entity, field by field, then the fields that are not defined, then the key.
-/

namespace Strata

/-- A way in which a record does not fit its entity. -/
inductive Issue where
  /-- A defined field is absent. -/
  | missingField (field : String)
  /-- A required field is null. -/
  | nullRequired (field : String)
  /-- A field holds a value of another type. -/
  | typeMismatch (field : String) (expected : FieldType) (found : String)
  /-- The record has a field that is not defined. -/
  | unknownField (field : String)
  /-- The key and the primary-key field disagree, or a keyless record has no row key. -/
  | keyMismatch
  deriving DecidableEq

namespace Issue

/-- The field that an issue is about. -/
def field? : Issue → Option String
  | missingField f | nullRequired f | unknownField f | typeMismatch f _ _ => some f
  | keyMismatch => none

/-- The wording of an issue. -/
def text : Issue → String
  | missingField f => "field " ++ f ++ " is missing"
  | nullRequired f => "required field " ++ f ++ " is null"
  | typeMismatch f expected found =>
    "field " ++ f ++ " expects " ++ expected.text ++ ", found " ++ found
  | unknownField f => "field " ++ f ++ " is not defined"
  | keyMismatch => "record key does not match primary key"

end Issue

/-- A table: its name and its fields in order. -/
structure Entity where
  /-- The name of the entity. -/
  name : String
  /-- The fields in the order of their declaration. -/
  fields : List Field
  deriving DecidableEq, Inhabited

namespace Entity

/-- The first field of a name. -/
def field? (e : Entity) (name : String) : Option Field := e.fields.find? (·.name == name)

/-- Whether a field of a name is defined. -/
def hasField (e : Entity) (name : String) : Bool := e.fields.any (·.name == name)

/-- The primary key: the first field marked as one. -/
def primaryKey? (e : Entity) : Option Field := e.fields.find? (·.primaryKey)

/-- Whether records of the entity are keyed by a field rather than by row. -/
def isKeyed (e : Entity) : Bool := e.primaryKey?.isSome

/-- The names of the fields in order. -/
def fieldNames (e : Entity) : List String := e.fields.map (·.name)

/-- The indexed fields. -/
def indexedFields (e : Entity) : List Field := e.fields.filter (·.indexed)

/-- The required fields. -/
def requiredFields (e : Entity) : List Field := e.fields.filter (·.required)

/-- The entity with one more field. -/
def addField (e : Entity) (f : Field) : Entity := { e with fields := e.fields ++ [f] }

/-- The entity without the first field of a name. -/
def removeField (e : Entity) (name : String) : Entity :=
  { e with fields := e.fields.eraseP (·.name == name) }

/-- The record with one field filled from its default, if the field is absent and there is one. -/
def fillField (r : Record) (f : Field) : Record :=
  if r.has f.name then r
  else match f.effectiveDefault? with
    | some value => r.set f.name value
    | none => r

/-- The record with every absent field that has a default filled. -/
def fillDefaults (e : Entity) (r : Record) : Record := e.fields.foldl fillField r

/-- What is wrong with the value of one field, if anything. -/
def fieldIssue? (r : Record) (f : Field) : Option Issue :=
  match r.get? f.name with
  | none => some (.missingField f.name)
  | some value =>
    if value.isNull then if f.required then some (.nullRequired f.name) else none
    else if f.type.accepts value then none
    else some (.typeMismatch f.name f.type value.kindName)

/-- Whether the key of a record is the one its primary-key field asks for; without a primary key, a
row. A row key has no field value, so on a keyed entity it agrees only with an absent field. -/
def keyFits (e : Entity) (r : Record) : Bool :=
  match e.primaryKey? with
  | some pk => r.key.fieldValue? == r.get? pk.name
  | none => r.key.isRow

/-- Every way in which a record fails to fit the entity. -/
def issues (e : Entity) (r : Record) : List Issue :=
  e.fields.filterMap (fieldIssue? r) ++
    (r.fields.keys.filter fun name => !e.hasField name).map .unknownField ++
    if e.keyFits r then [] else [.keyMismatch]

end Entity

end Strata
