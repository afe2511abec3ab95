import Strata.BigEndian
import Strata.Key

/-!
# Storage keys

A record is stored under the bytes of its entity's name, a separator, a tag for the kind of key, and
the key itself. All records of an entity therefore share an opening, and within it the order of the
bytes is the order of the keys: integers are shifted to be non-negative and written most significant
byte first, as rows are, and texts are written in UTF-8, whose byte order is the order of the code
points.

An entity name that holds the separator is read back cut at it, or not at all.
-/

namespace Strata.StorageKey

/-- The byte between an entity name and a key. -/
def separator : UInt8 := 0

/-- The bytes that the storage keys of an entity's records open with. -/
def opening (entity : String) : Bytes := Text.toBytes entity ++ [separator]

/-- What is added to integers to make them non-negative: half of what 64 bits can tell apart. -/
def shift : Int := 0x8000000000000000

/-- The tag and content of a key. -/
def keyBytes : Key → Bytes
  | .int i => 1 :: BigEndian.digits 8 (i.toInt + shift).toNat
  | .str s => 2 :: Text.toBytes s
  | .row r => 3 :: BigEndian.digits 8 r.toNat

/-- The bytes a record is stored under. -/
def encode (entity : String) (key : Key) : Bytes := opening entity ++ keyBytes key

/-- The key that a tag and content stand for: numbers take exactly eight bytes, and texts are
UTF-8. -/
def decodeKey? : Bytes → Option Key
  | [] => none
  | tag :: content =>
    if tag = 1 then
      if content.length = 8 then
        some (.int (Int64.ofInt ((BigEndian.value content : Int) - shift)))
      else none
    else if tag = 2 then (Text.ofBytes? content).map .str
    else if tag = 3 then
      if content.length = 8 then some (.row (UInt64.ofNat (BigEndian.value content))) else none
    else none

/-- The entity and key that storage bytes stand for. The entity is everything before the first
separator. -/
def decode? (bytes : Bytes) : Option (String × Key) :=
  match bytes.dropWhile (· != separator) with
  | [] => none
  | _ :: rest => do
    let entity ← Text.ofBytes? (bytes.takeWhile (· != separator))
    let key ← decodeKey? rest
    pure (entity, key)

end Strata.StorageKey
