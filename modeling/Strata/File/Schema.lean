import Strata.File.Record
import Strata.Schema.Basic

/-!
# Schemas in JSON

How types, fields, entities and schemas stand in files. The type of a field is the text that
definitions show, which is also read with the entity's name in an object, because a name may end in
brackets itself.
-/

namespace Strata

open Document (bool? str? nat? listOf?)

namespace FieldType

/-- The type that a text stands for: the name of a scalar or of a list of scalars, or an ampersand
and the name of an entity, with brackets behind it for a list. -/
def ofText? (s : String) : Option FieldType :=
  if s = "int" then some int
  else if s = "string" then some str
  else if s = "bool" then some bool
  else if s = "int[]" then some ints
  else if s = "string[]" then some strs
  else match s.toList with
    | '&' :: name =>
      if ['[', ']'].isSuffixOf name then
        some (refs (String.ofList (name.take (name.length - 2))))
      else some (ref (String.ofList name))
    | _ => none

/-- A type as JSON. -/
def toJson : FieldType → Json
  | ref entity => .object [("ref", .str entity)]
  | refs entity => .object [("list", .str entity)]
  | type => .str type.text

/-- The type that a document holds. -/
def ofDocument? : Document → Option FieldType
  | .text s => s.bind ofText?
  | .object [(some "ref", v)] => (str? v).map .ref
  | .object [(some "list", v)] => (str? v).map .refs
  | _ => none

end FieldType

/-- A value that may be absent, wrapped so that null stays apart from absence. -/
def Value.presenceToJson : Option Value → Json :=
  .ofOption fun v => .object [("value", v.toJson)]

/-- The value inside a wrapper. -/
def Value.ofWrapper? (v : Document) : Option Value := v.get? Value.ofDocument? "value"

namespace Field

/-- A definition as JSON. -/
def toJson (f : Field) : Json :=
  .object [("name", .str f.name), ("type", f.type.toJson), ("required", .bool f.required),
    ("default", Value.presenceToJson f.default?), ("indexed", .bool f.indexed),
    ("primary_key", .bool f.primaryKey)]

/-- The definition that a document holds. -/
def ofDocument? (v : Document) : Option Field := do
  pure ⟨← v.get? str? "name", ← v.get? FieldType.ofDocument? "type", ← v.get? bool? "required",
    ← v.maybe? Value.ofWrapper? "default", ← v.get? bool? "indexed", ← v.get? bool? "primary_key"⟩

end Field

namespace Entity

/-- An entity as JSON. -/
def toJson (e : Entity) : Json :=
  .object [("name", .str e.name), ("fields", .list (e.fields.map Field.toJson))]

/-- The entity that a document holds. -/
def ofDocument? (v : Document) : Option Entity := do
  pure ⟨← v.get? str? "name", ← v.get? (listOf? Field.ofDocument?) "fields"⟩

end Entity

namespace Schema

/-- A schema as JSON. -/
def toJson (s : Schema) : Json :=
  .object [("version", .nat s.version), ("entities", .list (s.entities.values.map Entity.toJson))]

/-- The schema that a document holds. -/
def ofDocument? (v : Document) : Option Schema := do
  pure (.ofList (← v.get? nat? "version") (← v.get? (listOf? Entity.ofDocument?) "entities"))

end Schema

end Strata
