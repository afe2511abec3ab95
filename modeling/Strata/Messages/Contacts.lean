import Strata.Value

/-!
# Address books

The phone numbers of contacts come from an address book outside the store. A lookup gives the
numbers of a contact, or none if the book does not know it, which is not the same as a contact
without numbers. The book held here keeps the ids of its numbers apart: a number whose id was added
before, under any contact, is ignored.
-/

namespace Strata.Messages

/-- A phone number as an address book gives it. -/
structure ContactNumber where
  /-- The id of the number in the book. -/
  id : Int64
  /-- The number. -/
  address : String
  /-- The label of the number. -/
  label : String
  /-- The account that the number is kept in. -/
  accountType? : Option String
  /-- The photo of the entry that the number is from. -/
  photoUri? : Option String
  deriving DecidableEq, Inhabited

/-- The numbers of a contact by its lookup key, for the contacts that are known. -/
abbrev Lookup := String → Option (List ContactNumber)

/-- The lookup without an address book. -/
def noContacts : Lookup := fun _ => none

/-- An address book. -/
structure AddressBook where
  /-- The numbers of each contact in the order they were added. -/
  contacts : Std.ExtTreeMap String (List ContactNumber)
  /-- The ids of all numbers. -/
  ids : List Int64
  deriving DecidableEq

namespace AddressBook

/-- The book without contacts. -/
def empty : AddressBook := ⟨∅, []⟩

/-- Adds a number to a contact unless its id is taken, and says whether it was added. -/
def add (b : AddressBook) (contact : String) (n : ContactNumber) : Bool × AddressBook :=
  if b.ids.contains n.id then (false, b)
  else
    (true, ⟨b.contacts.insert contact ((b.contacts[contact]?.getD []) ++ [n]), n.id :: b.ids⟩)

/-- The book of a list of numbers with their contacts, added in order. -/
def ofList (entries : List (String × ContactNumber)) : AddressBook :=
  entries.foldl (fun b (contact, n) => (b.add contact n).2) empty

/-- The numbers of a contact that has any. -/
def lookup (b : AddressBook) : Lookup := fun contact => b.contacts[contact]?

/-- The number of contacts. -/
def size (b : AddressBook) : Nat := b.contacts.size

/-- Whether there are no contacts. -/
def isEmpty (b : AddressBook) : Bool := b.contacts.isEmpty

end AddressBook

end Strata.Messages
