/-!
# Bytes in hexadecimal

Two lower-case digits for each byte, and the reader of that form.
-/

namespace Strata.Text.Hex

/-- The digit of a value below sixteen. -/
def digit (n : Nat) : Char :=
  if n < 10 then Char.ofNat (48 + n) else Char.ofNat (87 + n)

/-- The value of a hexadecimal digit of either case. -/
def value? (c : Char) : Option Nat :=
  if '0' ≤ c ∧ c ≤ '9' then some (c.toNat - 48)
  else if 'a' ≤ c ∧ c ≤ 'f' then some (c.toNat - 87)
  else if 'A' ≤ c ∧ c ≤ 'F' then some (c.toNat - 55)
  else none

/-- The two digits of a byte, the high one first. -/
def ofByte (b : UInt8) : List Char := [digit (b.toNat / 16), digit (b.toNat % 16)]

/-- The hexadecimal text of a list of bytes. -/
def encode (bytes : List UInt8) : String := String.ofList (bytes.flatMap ofByte)

/-- The bytes that pairs of digits stand for; none for a lone or foreign character. -/
def decodeChars : List Char → Option (List UInt8)
  | [] => some []
  | hi :: lo :: rest => do
    let h ← value? hi
    let l ← value? lo
    let bytes ← decodeChars rest
    pure (UInt8.ofNat (16 * h + l) :: bytes)
  | [_] => none

/-- The bytes that a hexadecimal text stands for. -/
def decode (s : String) : Option (List UInt8) := decodeChars s.toList

end Strata.Text.Hex
