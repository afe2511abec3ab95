import Strata.Text.Quoted
import Std.Data.ExtTreeMap

/-!
# Record keys

A key names a record within its entity. Entities with a primary key are keyed by an integer or a
text, which the primary-key field repeats; the others are keyed by a row number that the store
hands out. Keys are ordered: integers by value, then texts by code point, then rows by number
(`Key.instTransOrd` and `Key.instLawfulEqOrd` make that order usable by ordered maps).
-/

namespace Strata

/-- The identity of a record within its entity. -/
inductive Key where
  /-- An integer primary key. -/
  | int (value : Int64)
  /-- A text primary key. -/
  | str (text : String)
  /-- A row number of an entity without a primary key. -/
  | row (number : UInt64)
  deriving DecidableEq, Inhabited

namespace Key

/-- Integers come before texts and texts before rows; within a kind the content decides. -/
protected def compare : Key → Key → Ordering
  | int a, int b => Ord.compare a b
  | int _, _ => .lt
  | str _, int _ => .gt
  | str a, str b => Ord.compare a b
  | str _, row _ => .lt
  | row a, row b => Ord.compare a b
  | row _, _ => .gt

instance : Ord Key := ⟨Key.compare⟩

theorem compare_def (a b : Key) : Ord.compare a b = Key.compare a b := rfl

instance instTransOrd : Std.TransOrd Key where
  eq_swap {a b} := by
    cases a <;> cases b <;>
      simp only [compare_def, Key.compare, Ordering.swap] <;> exact Std.OrientedCmp.eq_swap
  isLE_trans {a b c} := by
    cases a <;> cases b <;> cases c <;>
      simp only [compare_def, Key.compare, Ordering.isLE, imp_self,
        implies_true, Bool.false_eq_true, false_implies] <;>
      exact Std.TransCmp.isLE_trans

instance instLawfulEqOrd : Std.LawfulEqOrd Key where
  eq_of_compare {a b} h := by
    cases a <;> cases b <;> simp only [compare_def, Key.compare, reduceCtorEq] at h <;>
      exact congrArg _ (Std.LawfulEqCmp.eq_of_compare h)

/-- Whether a key is a row number. -/
def isRow : Key → Bool
  | row _ => true
  | _ => false

/-- A key as it is shown to a reader: an integer in decimal, a text in quotes, a row behind `#`. -/
def text : Key → String
  | int i => toString i.toInt
  | str s => Text.quoted s
  | row r => "#" ++ toString r.toNat

instance : ToString Key := ⟨text⟩

/-- A key with its kind spelled out, as values that hold keys are written. -/
def spelled : Key → String
  | int i => "Int(" ++ toString i.toInt ++ ")"
  | str s => "Str(" ++ Text.quoted s ++ ")"
  | row r => "Row(" ++ toString r.toNat ++ ")"

end Key

end Strata
