import Strata.Preferences

/-!
# Scripted preference revisions

A revision of the preferences given as data: a list of changes that work on the buffered edits one
after the other.
-/

namespace Strata.Script

/-- One change of the preferences. -/
inductive PreferenceChange where
  /-- Sets a preference. -/
  | set (name : String) (value : Value)
  /-- Deletes a preference. -/
  | delete (name : String)
  /-- Copies a preference that is set. -/
  | copy (source target : String)
  /-- Adds to a preference that is an integer; wraps around. -/
  | add (name : String) (amount : Int64)
  /-- Deletes every preference whose name begins with a text. -/
  | deleteStarting (start : String)
  /-- Gives up. -/
  | fail (reason : String)
  /-- Applies a revision. -/
  | apply (revision : Revision)

/-- The effect of a change on the edits so far. -/
def PreferenceChange.run (snapshot : Snapshot) (p : PreferenceEdits) :
    PreferenceChange → Except MigrationError PreferenceEdits
  | set name value => .ok (p.set name value)
  | delete name => .ok (p.delete name)
  | copy source target =>
    match p.get? source with
    | some value => .ok (p.set target value)
    | none => .ok p
  | add name amount =>
    match p.int? name with
    | some i => .ok (p.set name (.int (i + amount)))
    | none => .ok p
  | deleteStarting start => .ok ((p.namesStarting start).foldl PreferenceEdits.delete p)
  | fail reason => .error (.transform "preferences" reason)
  | apply revision => revision snapshot p

/-- The revision that makes changes one after the other. -/
def revision (changes : List PreferenceChange) : Revision := fun snapshot p =>
  changes.foldlM (fun p change => change.run snapshot p) p

end Strata.Script
