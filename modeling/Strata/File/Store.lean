import Strata.File.Journal
import Strata.File.Schema
import Strata.Store.Basic

/-!
# Store files

A store is kept from one command to the next in a file with one JSON object. Storage keys,
fingerprints and what cannot be read stand in it in hexadecimal. A store that is read from a file
has been closed since it was written, so it goes on with row numbers as `Store.reopen` says.
-/

namespace Strata

open Document (str? nat? listOf? pairOf? entriesOf?)

/-- The bytes that a document holds in hexadecimal. -/
def Text.Hex.ofDocument? (v : Document) : Option Bytes := (str? v).bind decode

/-- What a journal slot holds as JSON: an object, or the bytes that are no journal. -/
def JournalEntry.toJson : JournalEntry → Json
  | readable j => j.toJson
  | corrupted bytes => .str (Text.Hex.encode bytes)

/-- What a journal slot holds according to a document. -/
def JournalEntry.ofDocument? : Document → Option JournalEntry
  | .text s => (s.bind Text.Hex.decode).map corrupted
  | v => (Journal.ofDocument? v).map readable

/-- What a version slot holds as JSON: a number, or the bytes that are no version. -/
def VersionEntry.toJson : VersionEntry → Json
  | readable version => .nat version
  | corrupted bytes _ => .str (Text.Hex.encode bytes)

/-- The entry of bytes that are no version. -/
def VersionEntry.ofBytes? (bytes : Bytes) : Option VersionEntry :=
  if h : bytes.length ≠ 8 then some (corrupted bytes h) else none

/-- What a version slot holds according to a document. -/
def VersionEntry.ofDocument? : Document → Option VersionEntry
  | .text s => (s.bind Text.Hex.decode).bind ofBytes?
  | v => (nat? v).map readable

namespace Store

/-- A store as JSON. -/
def toJson (s : Store) : Json :=
  .object [
    ("version", .ofOption VersionEntry.toJson s.version?),
    ("fingerprint", .ofOption (fun bytes => .str (Text.Hex.encode bytes)) s.fingerprint?),
    ("schema", .ofOption Schema.toJson s.schema?),
    ("journal", .ofOption JournalEntry.toJson s.journal?),
    ("noted_row", .nat s.rows.noted),
    ("preferences", Value.entriesToJson s.preferences),
    ("records", .list (s.records.toList.map fun (bytes, r) =>
      .list [.str (Text.Hex.encode bytes), r.toJson]))]

/-- The store that a document holds. -/
def ofDocument? (v : Document) : Option Store := do
  let records ← v.get? (listOf? (pairOf? Text.Hex.ofDocument? Record.ofDocument?)) "records"
  let preferences ← v.get? (entriesOf? Value.ofDocument?) "preferences"
  pure {
    records := .ofList records compare
    schema? := ← v.maybe? Schema.ofDocument? "schema"
    version? := ← v.maybe? VersionEntry.ofDocument? "version"
    fingerprint? := ← v.maybe? Text.Hex.ofDocument? "fingerprint"
    journal? := ← v.maybe? JournalEntry.ofDocument? "journal"
    preferences := .ofList preferences compare
    rows := .ofNoted (← v.get? nat? "noted_row") }

/-- The text of the file of a store. -/
def toText (s : Store) : String := s.toJson.pretty

/-- The store that the text of a file holds. -/
def ofText? (text : String) : Option Store := (Document.read? text).bind ofDocument?

end Store

end Strata
