import Strata.Edit
import Strata.Preferences
import Strata.Transform.Basic

/-!
# Steps

A step takes a store from one version to the next. Its parts take effect in a fixed order: tables
are cleared, edits change the shape, the transform changes the records of one entity, records are
inserted, and preferences are revised. All of it is committed together.
-/

namespace Strata

/-- A transition from one version to the next. -/
structure Step where
  /-- The version that the step starts from. -/
  source : Nat
  /-- What the step is about. -/
  description : String
  /-- The tables that are emptied first. -/
  clears : List String
  /-- The structural edits in order. -/
  edits : List Edit
  /-- The transforms with their entities; a history accepts at most one. -/
  transforms : List (String × Transform)
  /-- The records inserted after the transform, with their entities. -/
  inserts : List (String × Record)
  /-- The revision of the preferences, if there is one. -/
  revision? : Option Revision

namespace Step

/-- The step from a version that changes nothing. -/
def ofSource (source : Nat) (description : String) : Step :=
  ⟨source, description, [], [], [], [], none⟩

/-- The version that the step leads to. Versions are 64-bit numbers, and the source is taken to be
below the largest of them, so that the next number is a version too. -/
def target (s : Step) : Nat := s.source + 1

/-- The transform of the step with its entity. -/
def transform? (s : Step) : Option (String × Transform) := s.transforms.head?

/-- The step that also empties a table. -/
def clearTable (s : Step) (entity : String) : Step := { s with clears := s.clears ++ [entity] }

/-- The step with one more edit. -/
def withEdit (s : Step) (edit : Edit) : Step := { s with edits := s.edits ++ [edit] }

/-- The step that also adds a field. -/
def addField (s : Step) (entity : String) (field : Field) : Step :=
  s.withEdit (.addField entity field)

/-- The step that also removes a field. -/
def removeField (s : Step) (entity field : String) : Step :=
  s.withEdit (.removeField entity field)

/-- The step that also creates a table. -/
def createTable (s : Step) (e : Entity) : Step := s.withEdit (.createTable e)

/-- The step that also adds an optional reference to records of `target`. -/
def addReference (s : Step) (entity field target : String) : Step :=
  s.withEdit (.addReference entity (.optional field (.ref target)))

/-- The step that also adds a list of references to records of `target`, empty at first. -/
def addReferenceList (s : Step) (entity field target : String) : Step :=
  s.withEdit (.addReference entity (.list field (.refs target)))

/-- The step with one more transform. -/
def withTransform (s : Step) (entity : String) (t : Transform) : Step :=
  { s with transforms := s.transforms ++ [(entity, t)] }

/-- The step that also inserts a record. -/
def insert (s : Step) (entity : String) (r : Record) : Step :=
  { s with inserts := s.inserts ++ [(entity, r)] }

/-- The step with a revision of the preferences. -/
def withRevision (s : Step) (revision : Revision) : Step := { s with revision? := some revision }

/-- The wording of a step. -/
def text (s : Step) : String :=
  "v" ++ toString s.source ++ " -> v" ++ toString s.target ++ ": " ++ s.description

end Step

end Strata
