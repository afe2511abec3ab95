import Strata.Error
import Strata.Snapshot

/-!
# Preference edits

A step may revise the application's preferences. The revision works on a buffer over the current
preferences: reads see the edits made so far, and the edits are committed with the step, so each
takes effect once.
-/

namespace Strata

/-- The preferences of a store by name. -/
abbrev Preferences := Std.ExtTreeMap String Value

/-- A buffer of edits over the current preferences. -/
structure PreferenceEdits where
  /-- The preferences before the edits. -/
  current : Preferences
  /-- The edited names, with the new value or none for a deletion. -/
  pending : Std.ExtTreeMap String (Option Value)
  deriving DecidableEq

/-- Whether a text begins with another. -/
def Text.startsWith (s start : String) : Bool := start.toList.isPrefixOf s.toList

namespace PreferenceEdits

/-- No edits yet. -/
def ofCurrent (current : Preferences) : PreferenceEdits := ⟨current, ∅⟩

/-- The value of a preference after the edits so far. -/
def get? (p : PreferenceEdits) (name : String) : Option Value :=
  match p.pending[name]? with
  | some edit => edit
  | none => p.current[name]?

/-- The integer value of a preference after the edits so far. -/
def int? (p : PreferenceEdits) (name : String) : Option Int64 := (p.get? name).bind Value.int?

/-- Whether a preference is set after the edits so far. -/
def isSet (p : PreferenceEdits) (name : String) : Bool := (p.get? name).isSome

/-- The edits with a preference set. -/
def set (p : PreferenceEdits) (name : String) (value : Value) : PreferenceEdits :=
  { p with pending := p.pending.insert name (some value) }

/-- The edits with a preference deleted. -/
def delete (p : PreferenceEdits) (name : String) : PreferenceEdits :=
  { p with pending := p.pending.insert name none }

/-- The names, in order, of the preferences that are set and begin with a text. -/
def namesStarting (p : PreferenceEdits) (start : String) : List String :=
  let kept := p.current.keys.filter fun name =>
    Text.startsWith name start && !p.pending.contains name
  let added := (p.pending.toList.filter fun e => Text.startsWith e.1 start && e.2.isSome).map (·.1)
  (kept ++ added).mergeSort fun a b => decide (a ≤ b)

/-- The number of edited names. -/
def size (p : PreferenceEdits) : Nat := p.pending.size

/-- Whether nothing is edited. -/
def isEmpty (p : PreferenceEdits) : Bool := p.pending.isEmpty

end PreferenceEdits

/-- A revision of the preferences, which may read the records from before the step. -/
abbrev Revision := Snapshot → PreferenceEdits → Except MigrationError PreferenceEdits

end Strata
