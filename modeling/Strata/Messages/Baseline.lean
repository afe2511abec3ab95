import Strata.Messages.Names
import Strata.Schema.Basic

/-!
# The first message store

The schema of the message store at version 0, from which its history starts.
-/

namespace Strata.Messages

open Strata.Field in
/-- Conversations at version 0. -/
def conversationAtFirst : Entity where
  name := conversation
  fields := [
    primary "id" .int,
    list "recipients" (.refs recipient),
    (plain "count" .int).withDefault (.int 0),
    (plain "date" .int).withDefault (.int 0),
    (plain "snippet" .str).withDefault (.str ""),
    (plain "read" .bool).withDefault (.bool true),
    (plain "me" .bool).withDefault (.bool false),
    (plain "archived" .bool).withDefault (.bool false),
    (plain "blocked" .bool).withDefault (.bool false),
    (plain "draft" .str).withDefault (.str "")]

open Strata.Field in
/-- Messages at version 0. -/
def messageAtFirst : Entity where
  name := message
  fields := [
    primary "id" .int,
    ((plain "threadId" .int).withDefault (.int 0)).withIndex,
    (plain "contentId" .int).withDefault (.int 0),
    (plain "address" .str).withDefault (.str ""),
    (plain "boxId" .int).withDefault (.int 0),
    (plain "type" .str).withDefault (.str ""),
    (plain "date" .int).withDefault (.int 0),
    (plain "dateSent" .int).withDefault (.int 0),
    (plain "seen" .bool).withDefault (.bool false),
    (plain "read" .bool).withDefault (.bool false),
    (plain "locked" .bool).withDefault (.bool false),
    (plain "body" .str).withDefault (.str ""),
    (plain "errorCode" .int).withDefault (.int 0),
    (plain "deliveryStatus" .int).withDefault (.int (-1)),
    (plain "attachmentTypeString" .str).withDefault (.str "NOT_LOADED"),
    (plain "mmsDeliveryStatusString" .str).withDefault (.str ""),
    (plain "readReportString" .str).withDefault (.str ""),
    (plain "errorType" .int).withDefault (.int 0),
    (plain "messageSize" .int).withDefault (.int 0),
    (plain "messageType" .int).withDefault (.int 0),
    (plain "mmsStatus" .int).withDefault (.int 0),
    (plain "subject" .str).withDefault (.str ""),
    (plain "textContentType" .str).withDefault (.str ""),
    list "parts" (.refs mmsPart)]

open Strata.Field in
/-- Parts of multimedia messages at version 0. -/
def mmsPartAtFirst : Entity where
  name := mmsPart
  fields := [
    primary "id" .int,
    (plain "type" .str).withDefault (.str ""),
    optional "text" .str,
    optional "image" .str]

open Strata.Field in
/-- Recipients at version 0. -/
def recipientAtFirst : Entity where
  name := recipient
  fields := [
    primary "id" .int,
    (plain "address" .str).withDefault (.str ""),
    optional "contact" (.ref contact),
    (plain "lastUpdate" .int).withDefault (.int 0)]

open Strata.Field in
/-- Contacts at version 0. -/
def contactAtFirst : Entity where
  name := contact
  fields := [
    primary "lookupKey" .str,
    list "numbers" (.refs phoneNumber),
    (plain "name" .str).withDefault (.str ""),
    (plain "lastUpdate" .int).withDefault (.int 0)]

open Strata.Field in
/-- Phone numbers at version 0, which have no primary key. -/
def phoneNumberAtFirst : Entity where
  name := phoneNumber
  fields := [
    (plain "address" .str).withDefault (.str ""),
    (plain "type" .str).withDefault (.str "")]

open Strata.Field in
/-- The log of synchronisations at version 0. -/
def syncLogAtFirst : Entity where
  name := syncLog
  fields := [
    primary "id" .int,
    (plain "date" .int).withDefault (.int 0)]

/-- The schema of the message store at version 0. -/
def baseline : Schema :=
  .ofList 0 [conversationAtFirst, messageAtFirst, mmsPartAtFirst, recipientAtFirst, contactAtFirst,
    phoneNumberAtFirst, syncLogAtFirst]

end Strata.Messages
