import Strata.Digest.Blake3
import Strata.Schema.Basic
import Strata.Text.Hex

/-!
# Schema fingerprints

The fingerprint of a schema is the digest of a byte stream that lists, entity by entity in name
order, the name and the definition of each field with its default. The version is no part of it, so
two versions of one shape have one fingerprint.
-/

namespace Strata

/-- A digest of a schema. -/
abbrev Fingerprint := Bytes

namespace Schema

/-- The definition and default of a field, ended by a byte that no text contains. -/
def fieldStream (f : Field) : Bytes :=
  Text.toBytes f.text ++
    (match f.default? with
    | some value => Text.toBytes ("=" ++ value.spelled)
    | none => Text.toBytes "=none") ++
    [0xfe]

/-- The name of an entity, ended by a byte that no text contains, and its fields in order. -/
def entityStream (name : String) (e : Entity) : Bytes :=
  Text.toBytes name ++ [0xff] ++ e.fields.flatMap fieldStream

/-- The bytes that the fingerprint is the digest of. -/
def stream (s : Schema) : Bytes := s.entities.toList.flatMap fun p => entityStream p.1 p.2

/-- The fingerprint of the shape of a schema. -/
def fingerprint (s : Schema) : Fingerprint := Digest.Blake3.digest s.stream

/-- The fingerprint in hexadecimal. -/
def fingerprintHex (s : Schema) : String := Text.Hex.encode s.fingerprint

end Schema

end Strata
