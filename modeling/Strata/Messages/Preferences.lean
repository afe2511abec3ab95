import Strata.Messages.Names
import Strata.Preferences

/-!
# Preference revisions of the message store

Version 9 moves themes from conversations to their recipients, and version 10 renumbers the actions
of notifications and swipes.
-/

namespace Strata.Messages

/-- The preference that holds the theme of a recipient or, in older stores, of a conversation. -/
def themeName (key : Key) : String := "theme_" ++ key.text

/-- The number that a notification action has from version 10 on. -/
def renumberNotification (action : Int64) : Int64 :=
  if action = 1 then 5
  else if action = 2 then 6
  else if action = 3 then 4
  else if action = 4 then 2
  else action

/-- The number that a swipe action has from version 10 on. -/
def renumberSwipe (action : Int64) : Int64 :=
  if action = 2 then 2
  else if action = 3 then 4
  else if action = 4 then 5
  else if action = 5 then 6
  else action

/-- The themes found so far by recipient, and the edits so far. -/
abbrev ThemeMove := Std.ExtTreeMap Key Int64 × PreferenceEdits

/-- Takes the theme of one conversation, if it has one: notes it for each recipient, in place of an
earlier one, and deletes it. -/
def takeTheme (m : ThemeMove) (r : Record) : ThemeMove :=
  match m.2.int? (themeName r.key) with
  | none => m
  | some theme =>
    ((r.refs "recipients").foldl (fun themes key => themes.insert key theme) m.1,
      m.2.delete (themeName r.key))

/-- Moves the theme of each conversation to its recipients. Where conversations share a recipient
the last of them in key order decides. Every old theme is read before a new one is written. -/
def consolidateThemes : Revision := fun snapshot edits =>
  let (themes, edits) := (snapshot.records conversation).foldl takeTheme (∅, edits)
  .ok (themes.toList.foldl (fun edits (key, theme) => edits.set (themeName key) (.int theme)) edits)

/-- Renumbers one preference that holds an action. -/
def renumberSlot (renumber : Int64 → Int64) (edits : PreferenceEdits) (slot : String) :
    PreferenceEdits :=
  match edits.int? slot with
  | some action => edits.set slot (.int (renumber action))
  | none => edits

/-- Renumbers the actions of notifications and swipes that are set. -/
def renumberActions : Revision := fun _ edits =>
  .ok (swipeSlots.foldl (renumberSlot renumberSwipe)
    (notificationSlots.foldl (renumberSlot renumberNotification) edits))

end Strata.Messages
