import Strata.Error
import Strata.Journal
import Strata.Preferences
import Strata.RowCounter
import Strata.Schema.Fingerprint
import Strata.Snapshot
import Strata.StorageKey
import Std.Data.ExtTreeSet

/-!
# Stores

A store holds records under storage keys, the schema they are in, a header with the version and the
fingerprint of that schema, the journal of the last run, and preferences. Reading a table means
reading the records whose storage keys open with its name, in the order of the bytes. The header and
the journal are kept as bytes, and reading them fails if the bytes are not what belongs there.

A row number that was drawn stays drawn even if the record it was drawn for is refused. A live
schema without entities is kept but cannot be read back.
-/

namespace Strata

/-- What the journal slot of a store holds. -/
inductive JournalEntry where
  /-- A journal. -/
  | readable (journal : Journal)
  /-- Bytes that are no journal. -/
  | corrupted (bytes : Bytes)
  deriving DecidableEq

/-- What the version slot of the header of a store holds. -/
inductive VersionEntry where
  /-- A version. -/
  | readable (version : Nat)
  /-- Bytes that are no version, since a version takes eight. -/
  | corrupted (bytes : Bytes) (malformed : bytes.length ≠ 8)
  deriving DecidableEq

/-- The contents of a store. -/
structure Store where
  /-- The records by storage key. -/
  records : Std.ExtTreeMap Bytes Record
  /-- The schema that the records are in. -/
  schema? : Option Schema
  /-- The version slot of the header. -/
  version? : Option VersionEntry
  /-- The bytes in the fingerprint slot of the header. -/
  fingerprint? : Option Bytes
  /-- The journal of the last run. -/
  journal? : Option JournalEntry
  /-- The preferences by name. -/
  preferences : Preferences
  /-- The row numbers handed out. -/
  rows : RowCounter
  deriving DecidableEq

namespace Store

/-- A store without contents. -/
def empty : Store := ⟨∅, none, none, none, none, ∅, .start⟩

instance : Inhabited Store := ⟨empty⟩

/-- One record. -/
def get? (s : Store) (entity : String) (key : Key) : Option Record :=
  s.records[StorageKey.encode entity key]?

/-- The stored records whose keys open with the name of an entity, with those keys. -/
def entries (s : Store) (entity : String) : List (Bytes × Record) :=
  s.records.toList.filter fun e => (StorageKey.opening entity).isPrefixOf e.1

/-- The records of an entity in key order. -/
def scan (s : Store) (entity : String) : List Record := (s.entries entity).map (·.2)

/-- The number of records of an entity. -/
def count (s : Store) (entity : String) : Nat := (s.entries entity).length

/-- The entity of every storage key; fails at the first that cannot be read back. -/
def keyOwners : List Bytes → Except StoreError (List String)
  | [] => .ok []
  | bytes :: rest =>
    match StorageKey.decode? bytes with
    | some (entity, _) => (keyOwners rest).map (entity :: ·)
    | none => .error .invalidKey

/-- The names, in order, of the entities with at least one record. -/
def storedEntities (s : Store) : Except StoreError (List String) :=
  (keyOwners s.records.keys).map fun owners => (Std.ExtTreeSet.ofList owners compare).toList

/-- Whether the store holds any record. -/
def hasRecords (s : Store) : Bool := !s.records.isEmpty

/-- The store with a record under its storage key. -/
def putRecord (s : Store) (entity : String) (r : Record) : Store :=
  { s with records := s.records.insert (StorageKey.encode entity r.key) r }

/-- The store without the record of a key. -/
def deleteRecord (s : Store) (entity : String) (key : Key) : Store :=
  { s with records := s.records.erase (StorageKey.encode entity key) }

/-- The store with a preference set. -/
def setPreference (s : Store) (name : String) (value : Value) : Store :=
  { s with preferences := s.preferences.insert name value }

/-- The store without a preference. -/
def deletePreference (s : Store) (name : String) : Store :=
  { s with preferences := s.preferences.erase name }

/-- The value of a preference. -/
def preference? (s : Store) (name : String) : Option Value := s.preferences[name]?

/-- Hands out the next row number. -/
def drawRow (s : Store) : Except StoreError UInt64 × Store :=
  match s.rows.draw? with
  | some (n, rows) => (.ok n, { s with rows })
  | none => (.error .rowsExhausted, s)

/-- The store once it is closed and opened again. -/
def reopen (s : Store) : Store := { s with rows := s.rows.reopen }

/-- The version in the header, if there is one that can be read. -/
def stamped? (s : Store) : Option Nat :=
  match s.version? with
  | some (.readable version) => some version
  | _ => none

/-- The version in the header, if there is one; fails if it cannot be read. -/
def readStamp (s : Store) : Except StoreError (Option Nat) :=
  match s.version? with
  | none => .ok none
  | some (.readable version) => .ok (some version)
  | some (.corrupted _ _) => .error (.invalidData "stamped version is not 8 bytes")

/-- The fingerprint in the header, if there is one; fails if it has not the length of one. -/
def readFingerprint (s : Store) : Except StoreError (Option Fingerprint) :=
  match s.fingerprint? with
  | none => .ok none
  | some bytes =>
    if bytes.length = 32 then .ok (some bytes)
    else .error (.invalidData "schema fingerprint is not 32 bytes")

/-- The live schema, if there is one; fails if it cannot be read back. -/
def readSchema (s : Store) : Except StoreError (Option Schema) :=
  match s.schema? with
  | none => .ok none
  | some schema => if schema.entities.isEmpty then .error .schemaUnreadable else .ok (some schema)

/-- Adds a record with its final key: defaults are filled, and the record is refused if it does not
fit its entity or its key is taken. -/
def insertFilled (s : Store) (entity : String) (e : Entity) (r : Record) :
    Except StoreError Key × Store :=
  let r := e.fillDefaults r
  match e.issues r with
  | issue :: _ =>
    (.error (.invalidData (entity ++ " " ++ r.key.text ++ ": " ++ issue.text)), s)
  | [] =>
    if (s.get? entity r.key).isSome then (.error (.duplicateKey entity r.key), s)
    else (.ok r.key, s.putRecord entity r)

/-- Adds a record outside of a run and gives the key that it is stored under. The record has to fit
the live schema; a record of an entity without a primary key is given the next row number. -/
def insert (s : Store) (entity : String) (r : Record) : Except StoreError Key × Store :=
  match s.readSchema with
  | .error e => (.error e, s)
  | .ok none => (.error (.invalidData "store has no schema"), s)
  | .ok (some schema) =>
    match schema.entity? entity with
    | none => (.error (.unknownEntity entity), s)
    | some e =>
      if e.isKeyed then s.insertFilled entity e r
      else
        match s.drawRow with
        | (.error error, s) => (.error error, s)
        | (.ok n, s) => s.insertFilled entity e (r.withKey (.row n))

/-- The store with a journal. -/
def writeJournal (s : Store) (j : Journal) : Store := { s with journal? := some (.readable j) }

/-- The journal of the last run, if there is one; fails if it cannot be read. -/
def readJournal (s : Store) : Except MigrationError (Option Journal) :=
  match s.journal? with
  | none => .ok none
  | some (.readable j) => .ok (some j)
  | some (.corrupted _) => .error .journalCorrupted

/-- Refuses a store whose header has another version than `target`, or none. -/
def checkStamp (s : Store) (target : Nat) : Except MigrationError Unit :=
  match s.readStamp with
  | .error e => .error (.storage e)
  | .ok (some version) =>
    if version = target then .ok ()
    else
      .error (.blocked ("store is at version " ++ toString version ++ ", expected " ++
        toString target))
  | .ok none => .error (.blocked "store has no schema version")

/-- Refuses a store whose last run failed or that is not at `target`. -/
def ensureReady (s : Store) (target : Nat) : Except MigrationError Unit :=
  match s.readJournal with
  | .error e => .error e
  | .ok none => s.checkStamp target
  | .ok (some j) =>
    if j.isFailed then .error (.blocked ("last migration failed: " ++ j.reason))
    else s.checkStamp target

/-- The records of every entity of a schema. -/
def snapshot (s : Store) (schema : Schema) : Snapshot :=
  schema.names.foldl (fun snap entity => snap.withTable entity (.ofRecords (s.scan entity)))
    (.empty schema.version)

end Store

end Strata
