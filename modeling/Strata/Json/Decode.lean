import Strata.Json.Document

/-!
# Decoding JSON

From what a JSON text says to values of the library. Integers must be written as such and fit their
range. A structure is read from an object, whose members may come in any order and may include
unknown ones, but none twice; or from a list of its members in their order, which may break off
early. Members that are left out keep their start value.
-/

namespace Strata.Document

/-- A natural number of at most 64 bits. -/
def nat? : Document → Option Nat
  | integer n => if 0 ≤ n ∧ n < UInt64.size then some n.toNat else none
  | _ => none

/-- A signed 64-bit integer. -/
def int64? : Document → Option Int64
  | integer n =>
    if Int64.minValue.toInt ≤ n ∧ n ≤ Int64.maxValue.toInt then some (Int64.ofInt n) else none
  | _ => none

/-- A truth value. -/
def bool? : Document → Option Bool
  | bool b => some b
  | _ => none

/-- A text. -/
def str? : Document → Option String
  | text content => content
  | _ => none

/-- The elements of a list. -/
def list? : Document → Option (List Document)
  | list items => some items
  | _ => none

/-- Nothing for null, and otherwise what `read` gives. -/
def nullable? {α : Type} (read : Document → Option α) : Document → Option (Option α)
  | null => some none
  | v => (read v).map some

/-- A list whose elements are all read. -/
def listOf? {α : Type} (read : Document → Option α) : Document → Option (List α)
  | list items => items.mapM read
  | _ => none

/-- A list of two elements. -/
def pairOf? {α β : Type} (first : Document → Option α) (second : Document → Option β) :
    Document → Option (α × β)
  | list [a, b] => do pure (← first a, ← second b)
  | _ => none

/-- A list of three elements. -/
def tripleOf? {α β γ : Type} (first : Document → Option α) (second : Document → Option β)
    (third : Document → Option γ) : Document → Option (α × β × γ)
  | list [a, b, c] => do pure (← first a, ← second b, ← third c)
  | _ => none

/-- An object as a list of names and values. -/
def entriesOf? {α : Type} (read : Document → Option α) : Document → Option (List (String × α))
  | object members => members.mapM fun (name, v) => do pure (← name, ← read v)
  | _ => none

/-- The first member of a name. -/
def member? (v : Document) (name : String) : Option Document :=
  match v with
  | object members => (members.find? fun m => m.1 == some name).map (·.2)
  | _ => none

/-- A member that has to be there, as `read` gives it. -/
def get? {α : Type} (read : Document → Option α) (v : Document) (name : String) : Option α :=
  (v.member? name).bind read

/-- A member that may be left out or null, as `read` gives it. -/
def maybe? {α : Type} (read : Document → Option α) (v : Document) (name : String) :
    Option (Option α) :=
  match v.member? name with
  | some v => nullable? read v
  | none => some none

/-- A list that may be left out or null, which is to be empty then. -/
def listOr? {α : Type} (read : Document → Option α) (v : Document) (name : String) :
    Option (List α) :=
  (v.maybe? (listOf? read) name).map (·.getD [])

/-- An object that may be left out or null, which is to be empty then. -/
def entriesOr? {α : Type} (read : Document → Option α) (v : Document) (name : String) :
    Option (List (String × α)) :=
  (v.maybe? (entriesOf? read) name).map (·.getD [])

/-- A member of a structure: its name, and how its value changes the structure. -/
structure Member (α : Type) where
  /-- The name of the member. -/
  name : String
  /-- The structure with the member read from a value. -/
  read? : Document → α → Option α

/-- The member that is decoded by one function and set by another. -/
def Member.of {α β : Type} (name : String) (decode : Document → Option β) (set : α → β → α) :
    Member α :=
  ⟨name, fun v a => (decode v).map (set a)⟩

/-- Reads the members of an object. `seen` names those that were read before. -/
def readMembers {α : Type} (members : List (Member α)) :
    List String → List (Option String × Document) → α → Option α
  | _, [], a => some a
  | _, (none, _) :: _, _ => none
  | seen, (some name, v) :: rest, a =>
    match members.find? (·.name == name) with
    | none => readMembers members seen rest a
    | some m =>
      if seen.contains name then none
      else
        match m.read? v a with
        | some a => readMembers members (name :: seen) rest a
        | none => none

/-- Reads the elements of a list as members in order. -/
def readItems {α : Type} : List (Member α) → List Document → α → Option α
  | _, [], a => some a
  | [], _ :: _, _ => none
  | m :: members, v :: rest, a =>
    match m.read? v a with
    | some a => readItems members rest a
    | none => none

/-- Reads a structure with the given members over a start value. -/
def structure? {α : Type} (members : List (Member α)) (start : α) : Document → Option α
  | object entries => readMembers members [] entries start
  | list items => readItems members items start
  | _ => none

end Strata.Document
