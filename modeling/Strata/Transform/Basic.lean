import Strata.Error
import Strata.Snapshot

/-!
# Transforms

A transform changes one record of an entity. It may read the snapshot, put new records into other
entities, and count the fields for which it had to fall back to a stand-in value. It has no other
effect, so the records of an entity can be transformed in any grouping.
-/

namespace Strata

/-- What a transform may read besides the record. -/
structure Transform.Context where
  /-- The records of every entity before the step. -/
  snapshot : Snapshot
  /-- The entity that is being transformed. -/
  entity : String

/-- What a transform gives for one record. -/
structure Transform.Output where
  /-- The changed record. -/
  record : Record
  /-- The new records, each with its entity. -/
  emitted : List (String × Record)
  /-- How many fields fell back to a stand-in. -/
  fallbacks : Nat
  deriving DecidableEq

/-- A function on the records of one entity. -/
abbrev Transform := Record → Transform.Context → Except MigrationError Transform.Output

namespace Transform.Output

/-- A changed record and nothing else. -/
def ofRecord (r : Record) : Output := ⟨r, [], 0⟩

/-- The output with one more new record. -/
def emit (o : Output) (entity : String) (r : Record) : Output :=
  { o with emitted := o.emitted ++ [(entity, r)] }

/-- The output with one more fallback. -/
def fallback (o : Output) : Output := { o with fallbacks := o.fallbacks + 1 }

/-- The output with the record changed. -/
def update (o : Output) (change : Record → Record) : Output := { o with record := change o.record }

end Transform.Output

end Strata
