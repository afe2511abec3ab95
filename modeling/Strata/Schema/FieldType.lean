import Strata.Value

/-!
# Field types

The type of a field. Lists hold integers, texts or references, and are never nested. A null value
has no type: `FieldType.accepts` is about the others.
-/

namespace Strata

/-- The type of the values of a field. -/
inductive FieldType where
  /-- A signed 64-bit integer. -/
  | int
  /-- A text. -/
  | str
  /-- A truth value. -/
  | bool
  /-- A reference to one record of an entity. -/
  | ref (entity : String)
  /-- A list of integers. -/
  | ints
  /-- A list of texts. -/
  | strs
  /-- A list of references to records of an entity. -/
  | refs (entity : String)
  deriving DecidableEq, Inhabited

namespace FieldType

/-- Whether values of the type are lists. -/
def isList : FieldType → Bool
  | ints | strs | refs _ => true
  | _ => false

/-- Whether values of the type are single references. -/
def isReference : FieldType → Bool
  | ref _ => true
  | _ => false

/-- The entity that values of the type refer to. -/
def target? : FieldType → Option String
  | ref entity | refs entity => some entity
  | _ => none

/-- What records receive when a field of the type is added without a default: lists start empty and
references unset, and a scalar has nothing to start with. -/
def implicitDefault? : FieldType → Option Value
  | ints => some (.ints [])
  | strs => some (.strs [])
  | refs _ => some (.refs [])
  | ref _ => some .null
  | _ => none

/-- Whether a value that is not null has the type. References are not followed. -/
def accepts : FieldType → Value → Bool
  | int, .int _ => true
  | str, .str _ => true
  | bool, .bool _ => true
  | ref _, .ref _ => true
  | ints, .ints _ => true
  | strs, .strs _ => true
  | refs _, .refs _ => true
  | _, _ => false

/-- A type as definitions are written. -/
def text : FieldType → String
  | int => "int"
  | str => "string"
  | bool => "bool"
  | ref entity => "&" ++ entity
  | ints => "int[]"
  | strs => "string[]"
  | refs entity => "&" ++ entity ++ "[]"

instance : ToString FieldType := ⟨text⟩

end FieldType

end Strata
