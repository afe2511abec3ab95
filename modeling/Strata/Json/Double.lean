/-!
# Numbers as doubles

Whether a number written in decimal has a finite value as a double. The number comes as its leading
digits times a power of ten; both are rounded to 53 binary digits, and the value is their product.
Rounding twice makes the greatest finite value depend on how the number is written.
-/

namespace Strata.Double

/-- The nearest number of 53 binary digits, followed by zeros. Of two that are as near, the one that
is even there is taken. -/
def round (n : Nat) : Nat :=
  let unit := 1 <<< (n.log2 - 52)
  let q := n / unit
  let r := n % unit
  (if unit < 2 * r ∨ (unit = 2 * r ∧ q % 2 = 1) then q + 1 else q) * unit

/-- The least number that is rounded to infinity: half a unit above the greatest double. -/
def bound : Nat := (1 <<< 1024) - (1 <<< 970)

/-- The greatest power of ten that is a double. -/
def maxExponent : Int := 308

/-- Whether digits times a power of ten have a finite value. Negative powers always do. -/
def isFinite (digits : Nat) (exponent : Int) : Bool :=
  if digits = 0 ∨ exponent < 0 then true
  else if maxExponent < exponent then false
  else decide (round digits * round (Nat.pow 10 exponent.toNat) < bound)

end Strata.Double
