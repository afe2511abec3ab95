import Strata.Record
import Strata.Schema.Basic

/-!
# Snapshots

A snapshot holds the records of every entity as they were before a step, each table in key order.
Transforms and preference revisions read other records from it, so they never see a step's own work.
-/

namespace Strata

/-- The records of an entity by key. -/
abbrev Table := Std.ExtTreeMap Key Record

/-- The table of a list of records, each under its key; a later record replaces an earlier one. -/
def Table.ofRecords (records : List Record) : Table :=
  records.foldl (fun t r => t.insert r.key r) ∅

/-- Of the elements with the greatest rank, the last. -/
def lastMax? {α β : Type} [Ord β] (rank : α → β) (xs : List α) : Option α :=
  xs.foldl (fun best x =>
    match best with
    | none => some x
    | some b => if compare (rank b) (rank x) = .gt then some b else some x) none

/-- The records of every entity at one version. -/
structure Snapshot where
  /-- The version the records were read at. -/
  version : Nat
  /-- The tables by entity name. -/
  tables : Std.ExtTreeMap String Table
  deriving DecidableEq

namespace Snapshot

/-- The snapshot of a version without entities. -/
def empty (version : Nat) : Snapshot := ⟨version, ∅⟩

instance : Inhabited Snapshot := ⟨empty 0⟩

/-- The table of an entity; an entity that is not part of the snapshot has an empty one. -/
def table (s : Snapshot) (entity : String) : Table := s.tables[entity]?.getD ∅

/-- The snapshot with a record added to an entity. -/
def insert (s : Snapshot) (entity : String) (r : Record) : Snapshot :=
  { s with tables := s.tables.insert entity ((s.table entity).insert r.key r) }

/-- The snapshot with a whole table. -/
def withTable (s : Snapshot) (entity : String) (t : Table) : Snapshot :=
  { s with tables := s.tables.insert entity t }

/-- One record. -/
def get? (s : Snapshot) (entity : String) (key : Key) : Option Record := (s.table entity)[key]?

/-- The records of an entity in key order. -/
def records (s : Snapshot) (entity : String) : List Record := (s.table entity).values

/-- The keys of an entity in order. -/
def keys (s : Snapshot) (entity : String) : List Key := (s.table entity).keys

/-- The number of records of an entity. -/
def count (s : Snapshot) (entity : String) : Nat := (s.table entity).size

/-- The number of records of all entities. -/
def size (s : Snapshot) : Nat := (s.tables.values.map (·.size)).foldr (· + ·) 0

/-- Whether there are no records. -/
def isEmpty (s : Snapshot) : Bool := s.size == 0

/-- The names of the entities in order. -/
def names (s : Snapshot) : List String := s.tables.keys

/-- The first record of an entity, in key order, that passes a test. -/
def find? (s : Snapshot) (entity : String) (test : Record → Bool) : Option Record :=
  (s.records entity).find? test

/-- The record of an entity with the greatest rank among those that pass a test. Of equally ranked
records it is the one with the greatest key. -/
def max? {β : Type} [Ord β] (s : Snapshot) (entity : String) (test : Record → Bool)
    (rank : Record → β) : Option Record :=
  lastMax? rank ((s.records entity).filter test)

end Snapshot

end Strata
