import Strata.Key

/-!
# Field values

A field holds nothing, a scalar, a reference to a record of another entity, or a list of integers,
texts or references. Lists are never nested. `Value.spelled` writes a value with its kind; the
schema fingerprint and several messages use that form.
-/

namespace Strata

/-- A single field value. -/
inductive Value where
  /-- No value. -/
  | null
  /-- A truth value. -/
  | bool (value : Bool)
  /-- A signed 64-bit integer. -/
  | int (value : Int64)
  /-- A text. -/
  | str (text : String)
  /-- A reference to a record. -/
  | ref (key : Key)
  /-- A list of integers. -/
  | ints (values : List Int64)
  /-- A list of texts. -/
  | strs (texts : List String)
  /-- A list of references. -/
  | refs (keys : List Key)
  deriving DecidableEq, Inhabited

/-- The value that a primary-key field holds for a key; a row has none. -/
def Key.fieldValue? : Key → Option Value
  | .int i => some (.int i)
  | .str s => some (.str s)
  | .row _ => none

namespace Value

/-- Whether a value is null. -/
def isNull : Value → Bool
  | null => true
  | _ => false

/-- The truth value, if it is one. -/
def bool? : Value → Option Bool
  | bool b => some b
  | _ => none

/-- The integer, if it is one. -/
def int? : Value → Option Int64
  | int i => some i
  | _ => none

/-- The text, if it is one. -/
def str? : Value → Option String
  | str s => some s
  | _ => none

/-- The referenced key, if it is a reference. -/
def ref? : Value → Option Key
  | ref k => some k
  | _ => none

/-- The referenced keys, if it is a list of references. -/
def refs? : Value → Option (List Key)
  | refs ks => some ks
  | _ => none

/-- The number of elements, if it is a list. -/
def length? : Value → Option Nat
  | ints xs => some xs.length
  | strs xs => some xs.length
  | refs xs => some xs.length
  | _ => none

/-- The name of a value's kind, as messages give it. -/
def kindName : Value → String
  | null => "null"
  | bool _ => "bool"
  | int _ => "int"
  | str _ => "string"
  | ref _ => "ref"
  | ints _ => "int[]"
  | strs _ => "string[]"
  | refs _ => "ref[]"

/-- A value written with its kind; texts are quoted and keys spelled out. -/
def spelled : Value → String
  | null => "Null"
  | bool b => "Bool(" ++ (if b then "true" else "false") ++ ")"
  | int i => "Int(" ++ toString i.toInt ++ ")"
  | str s => "String(" ++ Text.quoted s ++ ")"
  | ref k => "Ref(" ++ k.spelled ++ ")"
  | ints xs => "IntList(" ++ Text.bracketed (xs.map fun i => toString i.toInt) ++ ")"
  | strs xs => "StringList(" ++ Text.bracketed (xs.map Text.quoted) ++ ")"
  | refs xs => "RefList(" ++ Text.bracketed (xs.map Key.spelled) ++ ")"

/-- A text, or null when there is none. -/
def ofStr? : Option String → Value
  | some s => str s
  | none => null

/-- A reference, or null when there is none. -/
def ofRef? : Option Key → Value
  | some k => ref k
  | none => null

end Value

end Strata
