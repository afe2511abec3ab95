import Strata.Messages.Baseline
import Strata.Messages.Preferences
import Strata.Messages.Transforms
import Strata.Registry

/-!
# The history of the message store

The fifteen steps of the message store, from version 0 to version 15. Version 8 rebuilds the phone
numbers of all contacts from an address book, which the history is given.
-/

namespace Strata.Messages

open Strata.Field

/-- Scheduled messages as they are created. -/
def scheduledMessageTable : Entity where
  name := scheduledMessage
  fields := [
    primary "id" .int,
    (plain "date" .int).withDefault (.int 0),
    (plain "subId" .int).withDefault (.int (-1)),
    list "recipients" .strs,
    (plain "sendAsGroup" .bool).withDefault (.bool true),
    (plain "body" .str).withDefault (.str ""),
    list "attachments" .strs]

/-- Blocked numbers as they are created. -/
def blockedNumberTable : Entity where
  name := blockedNumber
  fields := [primary "id" .int, plain "address" .str]

/-- Contact groups as they are created. -/
def contactGroupTable : Entity where
  name := contactGroup
  fields := [primary "id" .int, plain "title" .str, list "contacts" (.refs contact)]

/-- Content filters as they are created. -/
def messageContentFilterTable : Entity where
  name := messageContentFilter
  fields := [
    primary "id" .int,
    plain "value" .str,
    (plain "caseSensitive" .bool).withDefault (.bool false),
    (plain "isRegex" .bool).withDefault (.bool false),
    (plain "includeContacts" .bool).withDefault (.bool false)]

/-- Emoji reactions as they are created. -/
def emojiReactionTable : Entity where
  name := emojiReaction
  fields := [
    primary "id" .int,
    (plain "reactionMessageId" .int).withIndex,
    plain "senderAddress" .str,
    plain "emoji" .str,
    plain "originalMessageText" .str,
    (plain "threadId" .int).withIndex]

/-- The mark for collecting reactions as it is created; it has no primary key. -/
def emojiSyncNeededTable : Entity where
  name := emojiSyncNeeded
  fields := [(plain "createdAt" .int).withDefault (.int 0)]

/-- The steps of the history, oldest first. -/
def steps (lookup : Lookup) : List Step := [
  (Step.ofSource 0 "drop inline part images").removeField mmsPart "image",
  (Step.ofSource 1 "message subscription id").addField message
    ((plain "subId" .int).withDefault (.int 0)),
  (Step.ofSource 2 "conversation name").addField conversation
    ((plain "name" .str).withDefault (.str "")),
  (Step.ofSource 3 "scheduled messages").createTable scheduledMessageTable,
  (Step.ofSource 4 "pinned conversations").addField conversation
    ((plain "pinned" .bool).withDefault (.bool false)).withIndex,
  (Step.ofSource 5 "blocked numbers").createTable blockedNumberTable,
  (Step.ofSource 6 "blocking clients and part sequence")
    |>.addField conversation (optional "blockingClient" .int)
    |>.addField conversation (optional "blockReason" .str)
    |>.addField mmsPart ((plain "seq" .int).withDefault (.int 0))
    |>.addField mmsPart (optional "name" .str),
  (Step.ofSource 7 "conversation last message")
    |>.addReference conversation "lastMessage" message
    |>.removeField conversation "count"
    |>.removeField conversation "date"
    |>.removeField conversation "snippet"
    |>.removeField conversation "read"
    |>.removeField conversation "me"
    |>.withTransform conversation lastMessage,
  (Step.ofSource 8 "keyed phone numbers and recipient themes")
    |>.clearTable phoneNumber
    |>.createTable contactGroupTable
    |>.addField phoneNumber (primary "id" .int)
    |>.addField phoneNumber (optional "accountType" .str)
    |>.addField phoneNumber ((plain "isDefault" .bool).withDefault (.bool false))
    |>.addField contact ((plain "starred" .bool).withDefault (.bool false))
    |>.addField contact (optional "photoUri" .str)
    |>.withTransform contact (contactNumbers lookup)
    |>.withRevision consolidateThemes,
  (Step.ofSource 9 "renumber notification and swipe actions").withRevision renumberActions,
  (Step.ofSource 10 "part message id")
    |>.addField mmsPart ((plain "messageId" .int).withDefault (.int 0)).withIndex
    |>.withTransform mmsPart partMessageId,
  (Step.ofSource 11 "scheduled conversation and content filters")
    |>.addField scheduledMessage ((plain "conversationId" .int).withDefault (.int 0))
    |>.createTable messageContentFilterTable,
  (Step.ofSource 12 "draft date").addField conversation
    ((plain "draftDate" .int).withDefault (.int 0)),
  (Step.ofSource 13 "emoji reactions")
    |>.createTable emojiReactionTable
    |>.addField message ((plain "isEmojiReaction" .bool).withDefault (.bool false))
    |>.addReferenceList message "emojiReactions" emojiReaction
    |>.createTable emojiSyncNeededTable
    |>.insert emojiSyncNeeded (Record.keyless.set "createdAt" (.int 0)),
  (Step.ofSource 14 "send as group")
    |>.addField conversation ((plain "sendAsGroup" .bool).withDefault (.bool false))
    |>.addField message ((plain "sendAsGroup" .bool).withDefault (.bool false))
    |>.withTransform conversation sendAsGroup]

/-- The registry of the message store over an address book. -/
def registry (lookup : Lookup) : Except MigrationError Registry :=
  Registry.build baseline (steps lookup)

end Strata.Messages
