import Strata.Json.Decode
import Strata.Json.Printer
import Strata.Record

/-!
# Keys, values and records in JSON

How keys, values and records stand in files. Integers, texts, truth values and null stand for
themselves; what JSON has no form for is an object with one member that names the kind.
-/

namespace Strata

open Document (int64? nat? listOf? entriesOf?)

/-- An integer of the library as JSON. -/
def Json.int64 (i : Int64) : Json := .int i.toInt

namespace Key

/-- A key as JSON. -/
def toJson : Key → Json
  | int i => .int64 i
  | str s => .str s
  | row r => .object [("row", .nat r.toNat)]

/-- The key that a document holds. -/
def ofDocument? : Document → Option Key
  | .integer i => (int64? (.integer i)).map .int
  | .text s => s.map .str
  | .object [(some "row", v)] => (nat? v).map fun n => .row (.ofNat n)
  | _ => none

end Key

namespace Value

/-- A value as JSON. -/
def toJson : Value → Json
  | null => .null
  | bool b => .bool b
  | int i => .int64 i
  | str s => .str s
  | ref k => .object [("ref", k.toJson)]
  | ints xs => .object [("ints", .list (xs.map .int64))]
  | strs xs => .object [("strings", .strs xs)]
  | refs ks => .object [("refs", .list (ks.map Key.toJson))]

/-- The value that a document holds. -/
def ofDocument? : Document → Option Value
  | .null => some .null
  | .bool b => some (.bool b)
  | .integer i => (int64? (.integer i)).map .int
  | .text s => s.map .str
  | .object [(some "ref", v)] => (Key.ofDocument? v).map .ref
  | .object [(some "ints", v)] => (listOf? int64? v).map .ints
  | .object [(some "strings", v)] => (listOf? Document.str? v).map .strs
  | .object [(some "refs", v)] => (listOf? Key.ofDocument? v).map .refs
  | _ => none

/-- Values by name as JSON. -/
def entriesToJson (values : FieldValues) : Json :=
  .object (values.toList.map fun (name, v) => (name, v.toJson))

end Value

namespace Record

/-- A record as JSON. -/
def toJson (r : Record) : Json :=
  .object [("key", r.key.toJson), ("fields", Value.entriesToJson r.fields)]

/-- The record that a document holds. -/
def ofDocument? (v : Document) : Option Record := do
  let key ← v.get? Key.ofDocument? "key"
  let fields ← v.get? (entriesOf? Value.ofDocument?) "fields"
  pure ⟨key, .ofList fields compare⟩

end Record

end Strata
