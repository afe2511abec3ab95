import Strata.Store.Basic

/-!
# Transactions

A transaction collects the writes of a step and commits them together: either all of them take
effect or none. Record and preference writes take effect in the order they were collected, so the
last write to a key or name decides.
-/

namespace Strata

/-- A collected write. -/
inductive Write where
  /-- A record is stored in place of any other under its key. -/
  | put (entity : String) (record : Record)
  /-- A record is removed. -/
  | delete (entity : String) (key : Key)
  /-- A preference is set. -/
  | setPreference (name : String) (value : Value)
  /-- A preference is removed. -/
  | deletePreference (name : String)
  deriving DecidableEq

/-- Collected writes that are committed together. -/
structure Transaction where
  /-- The record and preference writes in order. -/
  writes : List Write
  /-- The new live schema; the fingerprint in the header follows it. -/
  schema? : Option Schema
  /-- The new version in the header. -/
  version? : Option Nat
  /-- The new journal. -/
  journal? : Option JournalEntry
  deriving DecidableEq

/-- The effect of a write on a store. -/
def Write.apply (w : Write) (s : Store) : Store :=
  match w with
  | put entity r => s.putRecord entity r
  | delete entity key => s.deleteRecord entity key
  | setPreference name value => s.setPreference name value
  | deletePreference name => s.deletePreference name

namespace Transaction

/-- No writes. -/
def empty : Transaction := ⟨[], none, none, none⟩

/-- The transaction with one more write. -/
def write (t : Transaction) (w : Write) : Transaction := { t with writes := t.writes ++ [w] }

/-- The transaction that also replaces the live schema. -/
def setSchema (t : Transaction) (schema : Schema) : Transaction :=
  { t with schema? := some schema }

/-- The transaction that also stamps a version. -/
def stamp (t : Transaction) (version : Nat) : Transaction := { t with version? := some version }

/-- The transaction that also stores a journal. -/
def setJournal (t : Transaction) (entry : JournalEntry) : Transaction :=
  { t with journal? := some entry }

end Transaction

namespace Store

/-- The store after writes one after the other. -/
def applyWrites (s : Store) (writes : List Write) : Store :=
  writes.foldl (fun s w => w.apply s) s

/-- The store after a transaction. -/
def commit (s : Store) (t : Transaction) : Store :=
  let s := s.applyWrites t.writes
  { s with
    schema? := t.schema? <|> s.schema?
    fingerprint? := t.schema?.map Schema.fingerprint <|> s.fingerprint?
    version? := t.version?.map .readable <|> s.version?
    journal? := t.journal? <|> s.journal? }

end Store

end Strata
