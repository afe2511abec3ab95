import Strata.Json.Decode
import Strata.Messages.Contacts

/-!
# Address books in JSON

An exported address book is a JSON list of numbers, each an object that also names its contact by
lookup key. A number needs an id and an address; the label is empty if it is left out, and the
account and the photo may be null. Members that are not known are skipped, but since they are read
as values, they have to be sound and not too deeply nested.
-/

namespace Strata.Messages

open Document (Member int64? str? nullable? structure? readMembers)

/-- The members of a number read so far. -/
structure NumberDraft where
  /-- The id. -/
  id? : Option Int64
  /-- The number. -/
  address? : Option String
  /-- The label. -/
  label : String
  /-- The account. -/
  accountType? : Option String
  /-- The photo. -/
  photoUri? : Option String

namespace NumberDraft

/-- Nothing read yet. -/
def empty : NumberDraft := ⟨none, none, "", none, none⟩

/-- The members of a number. -/
def members : List (Member NumberDraft) := [
  .of "id" int64? fun d n => { d with id? := some n },
  .of "address" str? fun d s => { d with address? := some s },
  .of "type" str? fun d s => { d with label := s },
  .of "account_type" (nullable? str?) fun d s => { d with accountType? := s },
  .of "photo_uri" (nullable? str?) fun d s => { d with photoUri? := s }]

/-- The number, once its id and address are known. -/
def number? (d : NumberDraft) : Option ContactNumber := do
  let id ← d.id?
  let address ← d.address?
  pure ⟨id, address, d.label, d.accountType?, d.photoUri?⟩

end NumberDraft

/-- The number that a document holds. -/
def ContactNumber.ofDocument? (v : Document) : Option ContactNumber :=
  (structure? NumberDraft.members .empty v).bind NumberDraft.number?

/-- How deeply a member of an entry may be nested: an entry is two levels deep itself, and the
deepest level of all is the 127th. -/
def maxMemberDepth : Nat := 125

/-- Whether the members of an entry, other than the lookup key, can be read as values. -/
def readable (members : List (Option String × Document)) : Bool :=
  members.all fun (name, v) => name.isSome && v.isSound && decide (v.depth ≤ maxMemberDepth)

/-- An entry of an address book: the lookup key of a contact and a number. -/
def entry? : Document → Option (String × ContactNumber)
  | .object members =>
    let (keys, others) := members.partition fun (name, _) => name == some "lookup_key"
    match keys with
    | [(_, v)] =>
      if readable others then do
        let contact ← v.str?
        let draft ← readMembers NumberDraft.members [] others .empty
        let number ← draft.number?
        pure (contact, number)
      else none
    | _ => none
  | _ => none

/-- The address book that a document holds. -/
def AddressBook.ofDocument? (v : Document) : Option AddressBook := do
  let items ← v.list?
  let entries ← items.mapM entry?
  pure (.ofList entries)

/-- The address book that a JSON text holds. -/
def AddressBook.ofText? (text : String) : Option AddressBook :=
  (Document.read? text).bind AddressBook.ofDocument?

end Strata.Messages
