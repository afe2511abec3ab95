/-!
# Names of the message store

The entities of the message store and the preferences that its history revises.
-/

namespace Strata.Messages

/-- Numbers that are blocked. -/
def blockedNumber : String := "BlockedNumber"

/-- People with phone numbers. -/
def contact : String := "Contact"

/-- Groups of contacts. -/
def contactGroup : String := "ContactGroup"

/-- Threads of messages. -/
def conversation : String := "Conversation"

/-- Emoji given in answer to a message. -/
def emojiReaction : String := "EmojiReaction"

/-- The mark that reactions have to be collected. -/
def emojiSyncNeeded : String := "EmojiSyncNeeded"

/-- Messages. -/
def message : String := "Message"

/-- Filters on the content of messages. -/
def messageContentFilter : String := "MessageContentFilter"

/-- Parts of multimedia messages. -/
def mmsPart : String := "MmsPart"

/-- Phone numbers. -/
def phoneNumber : String := "PhoneNumber"

/-- The other ends of conversations. -/
def recipient : String := "Recipient"

/-- Messages to be sent later. -/
def scheduledMessage : String := "ScheduledMessage"

/-- The log of synchronisations. -/
def syncLog : String := "SyncLog"

/-- The preferences that hold notification actions. -/
def notificationSlots : List String := ["notifAction1", "notifAction2", "notifAction3"]

/-- The preferences that hold swipe actions. -/
def swipeSlots : List String := ["swipeLeft", "swipeRight"]

end Strata.Messages
