import Strata.Proofs.StorageKeys

/-!
# The order of storage keys

Records are listed in the order of the bytes that they are stored under. Within an entity that is
the order of the keys (`StorageKey.compare_encode`), which puts integers before texts before rows,
integers and rows by value and texts by their bytes (`Key.compare_eq_lt_iff`).

Each part of a storage key is shown to grow with what it stands for, from the first byte in which
two forms differ: numbers most significant byte first (`BigEndian.compare_digits_of_lt`), characters
by their leading byte and then six bits at a time (`Text.compare_utf8EncodeChar`), and texts by
their first different character (`Text.compare_toBytes`). A map that keeps what is smaller keeps
every comparison (`compare_map_of_lt`), so this is all that has to be shown.
-/

namespace Strata

section Compare

/-- A map between two orders that keeps what is smaller keeps every comparison. -/
theorem compare_map_of_lt {α β : Type} [Ord α] [Ord β] [Std.OrientedOrd α] [Std.LawfulEqOrd α]
    [Std.OrientedOrd β] {f : α → β}
    (hlt : ∀ a b, compare a b = .lt → compare (f a) (f b) = .lt) (a b : α) :
    compare (f a) (f b) = compare a b := by
  cases h : compare a b with
  | lt => exact hlt a b h
  | eq =>
    rw [Std.LawfulEqCmp.eq_of_compare h]
    exact Std.compare_self
  | gt => exact Std.OrientedCmp.gt_iff_lt.2 (hlt b a (Std.OrientedCmp.gt_iff_lt.1 h))

/-- What two byte strings open with in common plays no part in their comparison. -/
theorem compare_append (opening a b : Bytes) :
    compare (opening ++ a) (opening ++ b) = compare a b := by
  induction opening with
  | nil => rfl
  | cons byte rest ih =>
    have hsame : compare byte byte = .eq := Std.compare_self
    rw [List.cons_append, List.cons_append, List.compare_cons_cons, hsame, ih]
    rfl

/-- Bytes that open with a smaller byte are smaller, whatever follows. -/
theorem compare_cons_of_lt {a b : UInt8} (h : a < b) (x y : Bytes) :
    compare (a :: x) (b :: y) = .lt := by
  have hcompare : compare a b = .lt := compareOfLessAndEq_eq_lt.2 h
  rw [List.compare_cons_cons, hcompare]
  rfl

/-- Byte strings compare by the first numbers that they are made of, and from the second byte on if
these are equal. -/
theorem compare_cons_ofNat {m n : Nat} (hm : m < 256) (hn : n < 256) {x y : Bytes}
    (h : m < n ∨ m = n ∧ compare x y = .lt) :
    compare (UInt8.ofNat m :: x) (UInt8.ofNat n :: y) = .lt := by
  rcases h with hlt | ⟨rfl, hrest⟩
  · refine compare_cons_of_lt ?_ x y
    rw [UInt8.lt_iff_toNat_lt, UInt8.toNat_ofNat_of_lt' hm, UInt8.toNat_ofNat_of_lt' hn]
    exact hlt
  · rw [List.compare_cons_cons, Std.compare_self, hrest]
    rfl

end Compare

namespace BigEndian

/-- A smaller number has smaller digits. -/
theorem compare_digits_of_lt {count a b : Nat} (hlt : a < b) (hb : b < capacity count) :
    compare (digits count a) (digits count b) = .lt := by
  induction count generalizing a b with
  | zero =>
    unfold capacity at hb
    omega
  | succ count ih =>
    have hpos := capacity_pos count
    have hfirst : ∀ n < capacity (count + 1), n / capacity count < 256 := by
      intro n hn
      rw [capacity, Nat.mul_comm] at hn
      exact Nat.div_lt_of_lt_mul hn
    have hle : a / capacity count ≤ b / capacity count := Nat.div_le_div_right (Nat.le_of_lt hlt)
    unfold digits
    refine compare_cons_ofNat (hfirst a (by omega)) (hfirst b hb) ?_
    rcases Nat.lt_or_eq_of_le hle with hdiv | hdiv
    · exact .inl hdiv
    · -- Numbers with the same first digit differ in the digits behind it.
      have hmod : a % capacity count < b % capacity count := by
        have ha := Nat.div_add_mod a (capacity count)
        have hb := Nat.div_add_mod b (capacity count)
        rw [hdiv] at ha
        omega
      exact .inr ⟨hdiv, ih hmod (Nat.mod_lt b hpos)⟩

end BigEndian

namespace Text

/-- The last `count` groups of six bits of a code point, each in a byte that continues a form, most
significant first. -/
def continuation : Nat → Nat → Bytes
  | 0, _ => []
  | count + 1, v => UInt8.ofNat (v / 64 ^ count % 64 + 128) :: continuation count v

/-- How many bytes continue the form of a code point. -/
def continuations (v : Nat) : Nat :=
  if v ≤ 0x7f then 0 else if v ≤ 0x7ff then 1 else if v ≤ 0xffff then 2 else 3

/-- The first byte of the form of a code point, as a number. -/
def leading (v : Nat) : Nat :=
  if v ≤ 0x7f then v
  else if v ≤ 0x7ff then v / 64 + 192
  else if v ≤ 0xffff then v / 4096 + 224
  else v / 262144 + 240

theorem continuation_one (v : Nat) : continuation 1 v = [UInt8.ofNat (v % 64 + 128)] := by
  unfold continuation
  rw [Nat.pow_zero, Nat.div_one]
  rfl

theorem continuation_two (v : Nat) :
    continuation 2 v = UInt8.ofNat (v / 64 % 64 + 128) :: continuation 1 v := rfl

theorem continuation_three (v : Nat) :
    continuation 3 v = UInt8.ofNat (v / 4096 % 64 + 128) :: continuation 2 v := rfl

theorem toNat_val_lt (c : Char) : c.val.toNat < 0x110000 := by
  have hvalid := c.valid
  unfold UInt32.isValidChar Nat.isValidChar at hvalid
  omega

/-- The form of a character is its leading byte and the bytes that continue it. -/
theorem utf8EncodeChar_eq (c : Char) :
    String.utf8EncodeChar c =
      UInt8.ofNat (leading c.val.toNat) ::
        continuation (continuations c.val.toNat) c.val.toNat := by
  have hlt := toNat_val_lt c
  -- The leading byte is written as its mark and what fits beside it, which is all of the quotient.
  unfold String.utf8EncodeChar leading continuations
  dsimp only
  split
  · rfl
  split
  · have hfits : c.val.toNat / 64 % 32 = c.val.toNat / 64 := by omega
    rw [hfits, continuation_one]
  split
  · have hfits : c.val.toNat / 4096 % 16 = c.val.toNat / 4096 := by omega
    rw [hfits, continuation_two, continuation_one]
  · have hfits : c.val.toNat / 262144 % 8 = c.val.toNat / 262144 := by omega
    rw [hfits, continuation_three, continuation_two, continuation_one]

/-- Of two code points with the same bits above the last groups, the smaller one has the smaller
bytes there. -/
theorem compare_continuation_of_lt {count v w : Nat} (h : v % 64 ^ count < w % 64 ^ count)
    (x y : Bytes) :
    compare (continuation count v ++ x) (continuation count w ++ y) = .lt := by
  induction count with
  | zero =>
    rw [Nat.pow_zero, Nat.mod_one, Nat.mod_one] at h
    omega
  | succ count ih =>
    rw [Nat.mod_pow_succ, Nat.mod_pow_succ] at h
    unfold continuation
    rw [List.cons_append, List.cons_append]
    refine compare_cons_ofNat (by omega) (by omega) ?_
    have hpos : 0 < 64 ^ count := Nat.pow_pos (by decide)
    have hv := Nat.mod_lt v hpos
    rcases Nat.lt_trichotomy (v / 64 ^ count % 64) (w / 64 ^ count % 64) with hlt | heq | hgt
    · exact .inl (by omega)
    · rw [heq] at h
      exact .inr ⟨by omega, ih (by omega)⟩
    · -- A larger first group would outweigh whatever is behind it.
      have hmul : 64 ^ count * (w / 64 ^ count % 64 + 1) ≤ 64 ^ count * (v / 64 ^ count % 64) :=
        Nat.mul_le_mul_left _ hgt
      rw [Nat.mul_add, Nat.mul_one] at hmul
      have hw := Nat.mod_lt w hpos
      omega

/-- The four lengths of a form, with the code points that have it. -/
theorem leading_cases (v : Nat) :
    (v ≤ 0x7f ∧ continuations v = 0 ∧ leading v = v) ∨
    (0x80 ≤ v ∧ v ≤ 0x7ff ∧ continuations v = 1 ∧ leading v = v / 64 + 192) ∨
    (0x800 ≤ v ∧ v ≤ 0xffff ∧ continuations v = 2 ∧ leading v = v / 4096 + 224) ∨
    (0x10000 ≤ v ∧ continuations v = 3 ∧ leading v = v / 262144 + 240) := by
  unfold continuations leading
  split
  · omega
  split
  · omega
  split
  · omega
  · omega

/-- Of two code points, the smaller one has a smaller leading byte, or the same one and smaller bits
behind it. -/
theorem leading_lt_or {v w : Nat} (hlt : v < w) :
    leading v < leading w ∨
      leading v = leading w ∧ continuations v = continuations w ∧
        v % 64 ^ continuations v < w % 64 ^ continuations w := by
  -- Longer forms have larger leading bytes, so only the cases of equal length say something.
  rcases leading_cases v with ⟨hv, hcount, hlead⟩ | ⟨hlo, hhi, hcount, hlead⟩ |
    ⟨hlo, hhi, hcount, hlead⟩ | ⟨hlo, hcount, hlead⟩ <;>
  rcases leading_cases w with ⟨hw, hcount', hlead'⟩ | ⟨hlo', hhi', hcount', hlead'⟩ |
    ⟨hlo', hhi', hcount', hlead'⟩ | ⟨hlo', hcount', hlead'⟩ <;>
  rw [hcount, hcount', hlead, hlead'] <;>
  omega

/-- A character before another has the smaller form, whatever follows. -/
theorem compare_utf8EncodeChar {c d : Char} (h : c < d) (x y : Bytes) :
    compare (String.utf8EncodeChar c ++ x) (String.utf8EncodeChar d ++ y) = .lt := by
  have hbyte : ∀ c : Char, leading c.val.toNat < 256 := by
    intro c
    have hbound := toNat_val_lt c
    rcases leading_cases c.val.toNat with h | h | h | h <;> omega
  have hlt : c.val.toNat < d.val.toNat := h
  rw [utf8EncodeChar_eq, utf8EncodeChar_eq, List.cons_append, List.cons_append]
  refine compare_cons_ofNat (hbyte c) (hbyte d) ?_
  rcases leading_lt_or hlt with hlead | ⟨hlead, hcount, hmod⟩
  · exact .inl hlead
  · rw [hcount] at hmod
    rw [hcount]
    exact .inr ⟨hlead, compare_continuation_of_lt hmod x y⟩

/-- A text before another has the smaller bytes. -/
theorem compare_toBytes_of_lt {s t : String} (h : s < t) :
    compare (toBytes s) (toBytes t) = .lt := by
  have hlex : List.Lex (· < ·) s.toList t.toList := String.lt_iff.1 h
  rw [toBytes_eq_flatMap, toBytes_eq_flatMap]
  generalize s.toList = cs at hlex
  generalize t.toList = ds at hlex
  induction hlex with
  | nil =>
    rw [List.flatMap_nil, List.flatMap_cons, utf8EncodeChar_eq, List.cons_append]
    exact List.compare_nil_cons
  | cons _ ih =>
    rw [List.flatMap_cons, List.flatMap_cons, compare_append]
    exact ih
  | rel hlt =>
    rw [List.flatMap_cons, List.flatMap_cons]
    exact compare_utf8EncodeChar hlt _ _

/-- The order of texts is the order of their bytes. -/
theorem compare_toBytes (s t : String) : compare (toBytes s) (toBytes t) = compare s t :=
  compare_map_of_lt (fun _ _ h => compare_toBytes_of_lt (compareOfLessAndEq_eq_lt.1 h)) s t

end Text

namespace Key

/-- Integers come before texts and texts before rows. Integers are ordered by value, texts by their
bytes and rows by number. -/
def Before : Key → Key → Prop
  | int i, int j => i.toInt < j.toInt
  | int _, _ => True
  | str _, int _ => False
  | str s, str t => compare (Text.toBytes s) (Text.toBytes t) = .lt
  | str _, row _ => True
  | row m, row n => m.toNat < n.toNat
  | row _, _ => False

/-- What the order of keys is. -/
theorem compare_eq_lt_iff {a b : Key} : compare a b = .lt ↔ a.Before b := by
  rw [compare_def]
  cases a with
  | int i =>
    cases b with
    | int j => exact compareOfLessAndEq_eq_lt.trans Int64.lt_iff_toInt_lt
    | str t => exact ⟨fun _ => trivial, fun _ => rfl⟩
    | row n => exact ⟨fun _ => trivial, fun _ => rfl⟩
  | str s =>
    cases b with
    | int j => exact ⟨nofun, nofun⟩
    | str t =>
      have hbytes := Text.compare_toBytes s t
      exact ⟨hbytes.trans, hbytes.symm.trans⟩
    | row n => exact ⟨fun _ => trivial, fun _ => rfl⟩
  | row m =>
    cases b with
    | int j => exact ⟨nofun, nofun⟩
    | str t => exact ⟨nofun, nofun⟩
    | row n => exact compareOfLessAndEq_eq_lt.trans UInt64.lt_iff_toNat_lt

/-- No two keys come before each other. -/
theorem Before.asymm {a b : Key} (h : a.Before b) : ¬b.Before a := by
  intro h'
  rw [← compare_eq_lt_iff] at h h'
  rw [Std.OrientedCmp.gt_of_lt h] at h'
  cases h'

end Key

namespace StorageKey

/-- A key before another has the smaller bytes. -/
theorem compare_keyBytes_of_before {a b : Key} (h : a.Before b) :
    compare (keyBytes a) (keyBytes b) = .lt := by
  have hcapacity : BigEndian.capacity 8 = 2 ^ 64 := rfl
  cases a with
  | int i =>
    cases b with
    | int j =>
      have hlo : (-0x8000000000000000 : Int) ≤ i.toInt := Int64.le_toInt i
      have hhi : j.toInt < 0x8000000000000000 := Int64.toInt_lt j
      have hlt : i.toInt < j.toInt := h
      -- Once shifted, negative integers keep their place below the others.
      have hdigits : compare (BigEndian.digits 8 (i.toInt + shift).toNat)
          (BigEndian.digits 8 (j.toInt + shift).toNat) = .lt := by
        refine BigEndian.compare_digits_of_lt ?_ ?_
        · unfold shift
          omega
        · rw [hcapacity]
          unfold shift
          omega
      exact (compare_append [1] _ _).trans hdigits
    | str t => exact compare_cons_of_lt (by decide) _ _
    | row n => exact compare_cons_of_lt (by decide) _ _
  | str s =>
    cases b with
    | int j => exact h.elim
    | str t => exact (compare_append [2] _ _).trans h
    | row n => exact compare_cons_of_lt (by decide) _ _
  | row m =>
    cases b with
    | int j => exact h.elim
    | str t => exact h.elim
    | row n =>
      have hdigits : compare (BigEndian.digits 8 m.toNat) (BigEndian.digits 8 n.toNat) = .lt :=
        BigEndian.compare_digits_of_lt h n.toNat_lt
      exact (compare_append [3] _ _).trans hdigits

/-- **Within an entity, the order of the bytes is the order of the keys.** -/
theorem compare_encode (entity : String) (a b : Key) :
    compare (encode entity a) (encode entity b) = compare a b := by
  unfold encode
  rw [compare_append]
  refine compare_map_of_lt (fun a b h => ?_) a b
  exact compare_keyBytes_of_before (Key.compare_eq_lt_iff.1 h)

end StorageKey

end Strata
