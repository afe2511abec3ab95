import Strata.File.Record
import Strata.Script.Revision
import Strata.Script.Transform

/-!
# Scripts in JSON

How scripted transforms and preference revisions are written down: each instruction or change is an
object with one member, whose name tells what to do and whose value is what to do it with.
-/

namespace Strata.Script

open Document (str? int64? pairOf? tripleOf?)

/-- A record from its parts as a document holds them, all of which may be left out. -/
def record? (v : Document) : Option Record := do
  pure (makeRecord (← v.maybe? Key.ofDocument? "key") (← v.maybe? str? "pk")
    (← v.entriesOr? Value.ofDocument? "fields"))

/-- The source of the key of an emission: `key_from` holds a field, a factor and an offset, and
`key` holds the key itself. -/
def KeySource.ofMembers? (v : Document) : Option KeySource := do
  match ← v.maybe? (tripleOf? str? int64? int64?) "key_from" with
  | some (field, factor, offset) => pure (computed field factor offset)
  | none => do
    pure (((← v.maybe? Key.ofDocument? "key").map fixed).getD absent)

/-- The emission that a document holds. -/
def Emission.ofDocument? (v : Document) : Option Emission := do
  pure ⟨← v.get? str? "entity", ← KeySource.ofMembers? v, ← v.maybe? str? "pk",
    ← v.entriesOr? Value.ofDocument? "fields", ← v.entriesOr? str? "copy"⟩

/-- An integer of any size. -/
def integer? : Document → Option Int
  | .integer n => some n
  | _ => none

/-- The instruction of a name with what it works on. -/
def Instruction.ofMember? (name : String) (v : Document) : Option Instruction :=
  let fieldAndValue := pairOf? str? Value.ofDocument? v
  let names := pairOf? str? str? v
  let text := v.get? str?
  match name with
  | "set" => fieldAndValue.map fun (f, x) => set f x
  | "copy" => names.map fun (source, target) => copy source target
  | "remove" => (str? v).map remove
  | "set_key" => (Key.ofDocument? v).map setKey
  | "add" => (pairOf? str? int64? v).map fun (f, n) => add f n
  | "list_len_gt" => (tripleOf? str? integer? str? v).map fun (f, n, into) => longerThan f n into
  | "latest" => do
    pure (latest (← text "entity") (← text "match") (← text "with") (← text "rank")
      (← text "into"))
  | "find_ref" => do
    pure (findReferrer (← text "entity") (← text "list") (← text "from") (← text "into"))
  | "default_if_null" => fieldAndValue.map fun (f, x) => setIfNull f x
  | "snapshot_count" => names.map fun (entity, target) => countRecords entity target
  | "emit" => (Emission.ofDocument? v).map emit
  | "fail_if" =>
    (tripleOf? str? Value.ofDocument? str? v).map fun (f, x, reason) => failIf f x reason
  | _ => none

/-- The change of preferences of a name with what it works on. -/
def PreferenceChange.ofMember? (name : String) (v : Document) : Option PreferenceChange :=
  match name with
  | "set" => (pairOf? str? Value.ofDocument? v).map fun (n, x) => set n x
  | "delete" => (str? v).map delete
  | "copy" => (pairOf? str? str? v).map fun (source, target) => copy source target
  | "add" => (pairOf? str? int64? v).map fun (n, k) => add n k
  | "delete_prefix" => (str? v).map deleteStarting
  | "fail" => (str? v).map fail
  | _ => none

end Strata.Script
