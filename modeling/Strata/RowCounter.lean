/-!
# Row numbers

Records without a primary key are keyed by row numbers. A counter hands the numbers out in ascending
order and never hands out one twice (`le_next_reopen`), whatever becomes of the record it was drawn
for. Only the start of the block that the latest number lies in is noted with the store, so a store
that is opened again goes on two blocks after the noted one, where no number has been handed out.
-/

namespace Strata

/-- The number of row numbers in a block. -/
def rowBlock : Nat := 1000000

/-- A counter of row numbers. -/
structure RowCounter where
  /-- The next number. -/
  next : Nat
  /-- The start of a block that was noted with the store. -/
  noted : Nat
  /-- The next number is not beyond the place where an opened store goes on. -/
  next_le : next ≤ noted + 2 * rowBlock
  deriving DecidableEq

namespace RowCounter

/-- The counter of a new store. -/
def start : RowCounter := ⟨0, 0, by omega⟩

instance : Inhabited RowCounter := ⟨start⟩

/-- The counter of a store that is opened with a noted block. -/
def ofNoted (noted : Nat) : RowCounter := ⟨noted + 2 * rowBlock, noted, Nat.le_refl _⟩

/-- The counter once its store is opened again. -/
def reopen (c : RowCounter) : RowCounter := ofNoted c.noted

/-- The block of a number, if it starts after the noted one. -/
def noteFor (noted n : Nat) : Nat := max noted (n / rowBlock * rowBlock)

/-- A number is followed by one that the block noted for it covers. -/
theorem succ_le_noteFor (noted n : Nat) : n + 1 ≤ noteFor noted n + 2 * rowBlock := by
  have := Nat.div_add_mod' n rowBlock
  have := Nat.mod_lt n (show 0 < rowBlock by decide)
  have : n / rowBlock * rowBlock ≤ noteFor noted n := Nat.le_max_right _ _
  omega

/-- Hands out the next number, as long as it takes no more than 64 bits. -/
def draw? (c : RowCounter) : Option (UInt64 × RowCounter) :=
  if c.next < UInt64.size then
    some (.ofNat c.next, ⟨c.next + 1, noteFor c.noted c.next, succ_le_noteFor _ _⟩)
  else none

/-- An opened store hands out no number that was handed out before. -/
theorem le_next_reopen (c : RowCounter) : c.next ≤ c.reopen.next := c.next_le

end RowCounter

end Strata
