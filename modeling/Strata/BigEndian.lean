import Strata.Text.Utf8

/-!
# Numbers as bytes, most significant first

A number in a fixed count of bytes, so that the order of the bytes is the order of the numbers, and
the number that bytes stand for. `value_digits` and `digits_value` say that the two undo each other.
-/

namespace Strata.BigEndian

/-- How many numbers fit a count of bytes. -/
def capacity : Nat → Nat
  | 0 => 1
  | count + 1 => 256 * capacity count

/-- The last `count` base-256 digits of a number, most significant first. -/
def digits : Nat → Nat → Bytes
  | 0, _ => []
  | count + 1, n => UInt8.ofNat (n / capacity count) :: digits count (n % capacity count)

/-- The number whose base-256 digits the bytes are. -/
def value : Bytes → Nat
  | [] => 0
  | b :: rest => b.toNat * capacity rest.length + value rest

theorem capacity_pos (count : Nat) : 0 < capacity count := by
  induction count with
  | zero => exact Nat.one_pos
  | succ count ih => exact Nat.mul_pos (by decide) ih

theorem length_digits (count n : Nat) : (digits count n).length = count := by
  induction count generalizing n with
  | zero => rfl
  | succ count ih => simp [digits, ih]

/-- A number that fits its bytes is read back from them. -/
theorem value_digits (count n : Nat) (h : n < capacity count) : value (digits count n) = n := by
  induction count generalizing n with
  | zero =>
    have : n = 0 := by
      simp only [capacity] at h
      omega
    subst this
    rfl
  | succ count ih =>
    have hpos := capacity_pos count
    have hlt : n / capacity count < 256 := by
      rw [capacity, Nat.mul_comm] at h
      exact Nat.div_lt_of_lt_mul h
    rw [digits, value, length_digits, ih _ (Nat.mod_lt n hpos), UInt8.toNat_ofNat_of_lt' hlt]
    exact Nat.div_add_mod' n (capacity count)

/-- Bytes stand for a number that fits them. -/
theorem value_lt (bytes : Bytes) : value bytes < capacity bytes.length := by
  induction bytes with
  | nil => exact Nat.one_pos
  | cons b rest ih =>
    have hb := b.toNat_lt
    have : b.toNat * capacity rest.length ≤ 255 * capacity rest.length :=
      Nat.mul_le_mul_right _ (by omega)
    simp only [value, List.length_cons, capacity]
    omega

/-- The digits of what bytes stand for are those bytes. -/
theorem digits_value (bytes : Bytes) : digits bytes.length (value bytes) = bytes := by
  induction bytes with
  | nil => rfl
  | cons b rest ih =>
    have hpos := capacity_pos rest.length
    have hlt := value_lt rest
    simp only [List.length_cons, digits, value]
    rw [Nat.mul_add_mod_of_lt hlt, ih, Nat.mul_comm, Nat.mul_add_div hpos,
      Nat.div_eq_of_lt hlt]
    simp

end Strata.BigEndian
