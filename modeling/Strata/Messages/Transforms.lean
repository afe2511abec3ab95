import Strata.Messages.Contacts
import Strata.Messages.Names
import Strata.Transform.Basic

/-!
# Transforms of the message store

Four steps of the history compute field values from other records: the last message of a
conversation, the numbers of a contact, the message that a part belongs to, and whether a
conversation is a group.
-/

namespace Strata.Messages

open Transform (Output)

/-- Whether a message belongs to the thread of a number; no message belongs to no thread. -/
def inThread (thread : Option Int64) (r : Record) : Bool :=
  thread.isSome && r.int? "threadId" == thread

/-- Points a conversation at its latest message, of equally late ones at the one with the greatest
key. A conversation without messages points at none. -/
def lastMessage : Transform := fun r cx =>
  let thread := r.int? "id"
  let latest := cx.snapshot.max? message (inThread thread) fun m => (m.int? "date").getD 0
  .ok (.ofRecord (r.set "lastMessage" (.ofRef? (latest.map (·.key)))))

/-- The record of a phone number from the address book, keyed by its id there. -/
def phoneNumberRecord (n : ContactNumber) : Record :=
  ((((Record.keyed "id" (.int n.id)).set "address" (.str n.address)).set "type"
    (.str n.label)).set "accountType" (.ofStr? n.accountType?)).set "isDefault" (.bool false)

/-- A contact that the address book knows: its numbers and first photo are set, and each number is
emitted. -/
def knownContact (r : Record) (numbers : List ContactNumber) : Output where
  record := (r.set "numbers" (.refs (numbers.map fun n => .int n.id))).set "photoUri"
    (.ofStr? (numbers.findSome? (·.photoUri?)))
  emitted := numbers.map fun n => (phoneNumber, phoneNumberRecord n)
  fallbacks := 0

/-- A contact that the address book does not know: it keeps no numbers and no photo. -/
def unknownContact (r : Record) : Output where
  record := (r.set "numbers" (.refs [])).set "photoUri" .null
  emitted := []
  fallbacks := 1

/-- Rebuilds the numbers and the photo of a contact from the address book. -/
def contactNumbers (lookup : Lookup) : Transform := fun r cx =>
  match r.str? "lookupKey" with
  | none => .error (.transform cx.entity ("contact " ++ r.key.text ++ " has no lookup key"))
  | some key =>
    match lookup key with
    | some numbers => .ok (knownContact r numbers)
    | none => .ok (unknownContact r)

/-- The content id of the first message, in key order, that lists a part. -/
def owningContentId? (snapshot : Snapshot) (part : Key) : Option Int64 :=
  (snapshot.find? message fun m => (m.refs "parts").contains part).bind (·.int? "contentId")

/-- Points a part at the message that lists it; a part that no message lists gets 0. -/
def partMessageId : Transform := fun r cx =>
  match owningContentId? cx.snapshot r.key with
  | some id => .ok (.ofRecord (r.set "messageId" (.int id)))
  | none => .ok (Output.ofRecord (r.set "messageId" (.int 0))).fallback

/-- Marks a conversation with more than one recipient as a group. -/
def sendAsGroup : Transform := fun r _ =>
  .ok (.ofRecord (r.set "sendAsGroup" (.bool (decide (1 < (r.refs "recipients").length)))))

end Strata.Messages
