import Strata.Schema.FieldType

/-!
# Field definitions

A field has a name, a type and flags. A required field is never null. The default is what records
receive when the field is added or left out; `Field.effectiveDefault?` says what that is when no
default was given.
-/

namespace Strata

/-- The definition of a field. -/
structure Field where
  /-- The name of the field. -/
  name : String
  /-- The type of its values. -/
  type : FieldType
  /-- Whether the field must hold a value other than null. -/
  required : Bool
  /-- The value that records without the field receive. -/
  default? : Option Value
  /-- Whether the field is indexed. -/
  indexed : Bool
  /-- Whether the field repeats the key of its record. -/
  primaryKey : Bool
  deriving DecidableEq, Inhabited

namespace Field

/-- A required field. -/
def plain (name : String) (type : FieldType) : Field := ⟨name, type, true, none, false, false⟩

/-- A field that may be null. -/
def optional (name : String) (type : FieldType) : Field :=
  { plain name type with required := false }

/-- A primary key, which is required and indexed. -/
def primary (name : String) (type : FieldType) : Field :=
  { plain name type with indexed := true, primaryKey := true }

/-- A list, which is never null and starts empty. -/
def list (name : String) (type : FieldType) : Field :=
  { plain name type with default? := type.implicitDefault? }

/-- The field with a default. -/
def withDefault (f : Field) (value : Value) : Field := { f with default? := some value }

/-- The field with an index. -/
def withIndex (f : Field) : Field := { f with indexed := true }

/-- What records without the field receive: the default if there is one, else what the type starts
with, else null if the field may be null. A required scalar without a default has nothing. -/
def effectiveDefault? (f : Field) : Option Value :=
  f.default? <|> f.type.implicitDefault? <|> if f.required then none else some .null

/-- Whether the field may hold a value. -/
def admits (f : Field) (value : Value) : Bool :=
  if value.isNull then !f.required else f.type.accepts value

/-- A definition as schemas are shown: name and type, `?` if it may be null, then the role. -/
def text (f : Field) : String :=
  f.name ++ ": " ++ f.type.text ++ (if f.required then "" else "?") ++
    (if f.primaryKey then " @pk" else if f.indexed then " @index" else "")

instance : ToString Field := ⟨text⟩

end Field

end Strata
