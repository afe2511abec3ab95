import Strata.Schema.Entity

/-!
# Schemas

A schema is the set of entities at one version, by name.
-/

namespace Strata

/-- The entities at one version. -/
structure Schema where
  /-- The version that the schema describes. -/
  version : Nat
  /-- The entities by name. -/
  entities : Std.ExtTreeMap String Entity
  deriving DecidableEq

namespace Schema

/-- The schema of a version without entities. -/
def empty (version : Nat) : Schema := ⟨version, ∅⟩

instance : Inhabited Schema := ⟨empty 0⟩

/-- The schema with an entity under its own name, in place of any other of that name. -/
def withEntity (s : Schema) (e : Entity) : Schema :=
  { s with entities := s.entities.insert e.name e }

/-- The schema of a version with the given entities. -/
def ofList (version : Nat) (entities : List Entity) : Schema :=
  entities.foldl withEntity (empty version)

/-- The entity of a name. -/
def entity? (s : Schema) (name : String) : Option Entity := s.entities[name]?

/-- Whether an entity of a name exists. -/
def hasEntity (s : Schema) (name : String) : Bool := s.entities.contains name

/-- The names of the entities in order. -/
def names (s : Schema) : List String := s.entities.keys

end Schema

end Strata
