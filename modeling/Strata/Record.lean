import Strata.Value

/-!
# Records

A record is a key and a map from field names to values. A field that is present with a null value
is not the same as a field that is absent.
-/

namespace Strata

/-- The values of a record by field name. -/
abbrev FieldValues := Std.ExtTreeMap String Value

/-- One instance of an entity. -/
structure Record where
  /-- The identity of the record within its entity. -/
  key : Key
  /-- The values by field name. -/
  fields : FieldValues
  deriving DecidableEq

namespace Record

/-- The record with a key and no fields. -/
def ofKey (key : Key) : Record := ⟨key, ∅⟩

instance : Inhabited Record := ⟨ofKey default⟩

/-- The value of a field. -/
def get? (r : Record) (name : String) : Option Value := r.fields[name]?

/-- Whether a field is present; null counts as present. -/
def has (r : Record) (name : String) : Bool := r.fields.contains name

/-- The record with a field set. -/
def set (r : Record) (name : String) (value : Value) : Record :=
  { r with fields := r.fields.insert name value }

/-- The record without a field. -/
def remove (r : Record) (name : String) : Record :=
  { r with fields := r.fields.erase name }

/-- The record under another key. -/
def withKey (r : Record) (key : Key) : Record := { r with key }

/-- The record with a key whose primary-key field repeats it; a row key sets no field. -/
def keyed (primaryKey : String) (key : Key) : Record :=
  match key.fieldValue? with
  | some value => (ofKey key).set primaryKey value
  | none => ofKey key

/-- The record of an entity without a primary key, before the store gives it a row number. -/
def keyless : Record := ofKey (.row 0)

/-- The integer a field holds. -/
def int? (r : Record) (name : String) : Option Int64 := (r.get? name).bind Value.int?

/-- The truth value a field holds. -/
def bool? (r : Record) (name : String) : Option Bool := (r.get? name).bind Value.bool?

/-- The text a field holds. -/
def str? (r : Record) (name : String) : Option String := (r.get? name).bind Value.str?

/-- The keys of a reference-list field; any other field has none. -/
def refs (r : Record) (name : String) : List Key := ((r.get? name).bind Value.refs?).getD []

@[simp] theorem key_set (r : Record) (name : String) (value : Value) :
    (r.set name value).key = r.key := rfl

@[simp] theorem key_remove (r : Record) (name : String) : (r.remove name).key = r.key := rfl

/-- Setting a field changes that field and no other. -/
theorem get?_set (r : Record) (name other : String) (value : Value) :
    (r.set name value).get? other = if name = other then some value else r.get? other := by
  simp only [get?, set, Std.ExtTreeMap.getElem?_insert, Std.LawfulEqCmp.compare_eq_iff_eq]

/-- Removing a field removes that field and no other. -/
theorem get?_remove (r : Record) (name other : String) :
    (r.remove name).get? other = if name = other then none else r.get? other := by
  simp only [get?, remove, Std.ExtTreeMap.getElem?_erase, Std.LawfulEqCmp.compare_eq_iff_eq]

end Record

end Strata
