import Strata.Json.Double
import Strata.Text.Hex

/-!
# Reading JSON

A JSON text as a tree of what is written in it. The tree keeps what decoders have to tell apart:
integers from numbers with a fraction or an exponent, texts whose escapes stand for no text, and
every member of an object, in order and with repetitions.

`Document.read?` accepts exactly one value between blanks. Blanks are the space, the tab, the line
feed and the carriage return; a text holds no bare control character below the space.
-/

namespace Strata

/-- What a JSON text says. -/
inductive Document where
  /-- Null. -/
  | null
  /-- A truth value. -/
  | bool (value : Bool)
  /-- A number written without fraction and exponent whose digits fit in 64 bits, other than minus
  zero. -/
  | integer (value : Int)
  /-- Any other number without its sign: as many of its leading digits as fit in 64 bits, and the
  power of ten that they are times. -/
  | decimal (digits : Nat) (exponent : Int)
  /-- A text; none if its escapes hold half of a surrogate pair. -/
  | text (content : Option String)
  /-- A list. -/
  | list (items : List Document)
  /-- An object, with the names of its members as texts. -/
  | object (members : List (Option String × Document))
  deriving Inhabited

namespace Document

/-- Whether a character may stand between tokens. -/
def isBlank (c : Char) : Bool := c = ' ' || c = '\t' || c = '\n' || c = '\r'

/-- The text after leading blanks. -/
def skipBlanks (cs : List Char) : List Char := cs.dropWhile isBlank

/-- The value of a decimal digit. -/
def digit? (c : Char) : Option Nat :=
  if '0' ≤ c ∧ c ≤ '9' then some (c.toNat - 48) else none

/-- Whether a character is a decimal digit. -/
def isDigit (c : Char) : Bool := (digit? c).isSome

/-- The number that leading digits stand for behind those of `n`, as many of them as fit in 64 bits,
and the digits that are left. -/
def leadingDigits (n : Nat) : List Char → Nat × List Char
  | [] => (n, [])
  | c :: rest =>
    let m := 10 * n + (digit? c).getD 0
    if m < UInt64.size then leadingDigits m rest else (n, c :: rest)

/-- The number that decimal digits stand for. -/
def digitsValue (cs : List Char) : Nat := cs.foldl (fun n c => 10 * n + (digit? c).getD 0) 0

/-- The digits at the start of a text, at least one, and the rest. -/
def takeDigits? (cs : List Char) : Option (List Char × List Char) :=
  match cs.takeWhile isDigit with
  | [] => none
  | ds => some (ds, cs.dropWhile isDigit)

/-- The fraction at the start of a text, if there is one: its digits and the rest. -/
def takeFraction? : List Char → Option (Option (List Char) × List Char)
  | '.' :: rest => (takeDigits? rest).map fun (ds, rest) => (some ds, rest)
  | cs => some (none, cs)

/-- A sign and digits at the start of a text. -/
def takeSigned? : List Char → Option (Int × List Char)
  | '-' :: rest => (takeDigits? rest).map fun (ds, rest) => (-(digitsValue ds : Int), rest)
  | '+' :: rest => (takeDigits? rest).map fun (ds, rest) => ((digitsValue ds : Int), rest)
  | cs => (takeDigits? cs).map fun (ds, rest) => ((digitsValue ds : Int), rest)

/-- The exponent at the start of a text, if there is one, and the rest. -/
def takeExponent? : List Char → Option (Option Int × List Char)
  | 'e' :: rest | 'E' :: rest => (takeSigned? rest).map fun (e, rest) => (some e, rest)
  | cs => some (none, cs)

/-- A number without its sign. Only a lone zero may begin with a zero. -/
def unsigned? (negative : Bool) (cs : List Char) : Option (Document × List Char) := do
  let (whole, rest) ← takeDigits? cs
  if whole.head? = some '0' ∧ 1 < whole.length then none
  else
    let (fraction, rest) ← takeFraction? rest
    let (exponent, rest) ← takeExponent? rest
    let (n, left) := leadingDigits 0 whole
    match fraction, exponent, left with
    | none, none, [] =>
      if !negative then pure (.integer n, rest)
      -- Minus zero is a number, but no integer.
      else if n = 0 then pure (.decimal 0 0, rest)
      else pure (.integer (-n), rest)
    | _, _, _ =>
      let places := fraction.getD []
      let (n, ignored) := leadingDigits n places
      let shift : Int := left.length + ignored.length - places.length
      pure (.decimal n (exponent.getD 0 + shift), rest)

/-- A number. -/
def number? : List Char → Option (Document × List Char)
  | '-' :: rest => unsigned? true rest
  | cs => unsigned? false cs

/-- One element of a text: a character, or a half of a surrogate pair. -/
inductive TextUnit where
  /-- A character. -/
  | char (c : Char)
  /-- The half of a pair that comes first. -/
  | high (code : Nat)
  /-- The half of a pair that comes second. -/
  | low (code : Nat)

/-- The element that a code in an escape stands for. -/
def TextUnit.ofCode (n : Nat) : TextUnit :=
  if 0xd800 ≤ n ∧ n ≤ 0xdbff then high n
  else if 0xdc00 ≤ n ∧ n ≤ 0xdfff then low n
  else char (Char.ofNat n)

/-- The characters of elements; none if half a pair stands alone. -/
def join : List TextUnit → Option (List Char)
  | [] => some []
  | .char c :: rest => (join rest).map (c :: ·)
  | .high a :: .low b :: rest =>
    (join rest).map (Char.ofNat (0x10000 + (a - 0xd800) * 0x400 + (b - 0xdc00)) :: ·)
  | .high _ :: _ => none
  | .low _ :: _ => none

/-- The character that a short escape stands for. -/
def shortEscape? (c : Char) : Option Char :=
  if c = '\x22' ∨ c = '\\' ∨ c = '/' then some c
  else if c = 'b' then some '\x08'
  else if c = 'f' then some '\x0c'
  else if c = 'n' then some '\n'
  else if c = 'r' then some '\r'
  else if c = 't' then some '\t'
  else none

/-- The code that four hexadecimal digits stand for. -/
def code? (a b c d : Char) : Option Nat := do
  let w ← Text.Hex.value? a
  let x ← Text.Hex.value? b
  let y ← Text.Hex.value? c
  let z ← Text.Hex.value? d
  pure (((16 * w + x) * 16 + y) * 16 + z)

/-- The elements of a text up to its closing quote, and what follows. -/
def units? : List Char → Option (List TextUnit × List Char)
  | [] => none
  | '\\' :: 'u' :: a :: b :: c :: d :: rest => do
    let n ← code? a b c d
    let (units, rest) ← units? rest
    pure (.ofCode n :: units, rest)
  | '\\' :: c :: rest => do
    let c ← shortEscape? c
    let (units, rest) ← units? rest
    pure (.char c :: units, rest)
  | c :: rest =>
    -- A backslash is left here only if the text ends behind it.
    if c = '\x22' then some ([], rest)
    else if c = '\\' ∨ c.toNat < 0x20 then none
    else do
      let (units, rest) ← units? rest
      pure (.char c :: units, rest)

/-- The text after an opening quote. -/
def text? (cs : List Char) : Option (Option String × List Char) :=
  (units? cs).map fun (units, rest) => ((join units).map String.ofList, rest)

/-- The rest of a text after a word. -/
def word? (word : String) (cs : List Char) : Option (List Char) :=
  if word.toList.isPrefixOf cs then some (cs.drop word.length) else none

mutual

/-- A value at the start of a text. The number bounds the nesting of calls. -/
def value? : Nat → List Char → Option (Document × List Char)
  | 0, _ => none
  | fuel + 1, cs =>
    match cs with
    | 'n' :: _ => (word? "null" cs).map fun rest => (.null, rest)
    | 't' :: _ => (word? "true" cs).map fun rest => (.bool true, rest)
    | 'f' :: _ => (word? "false" cs).map fun rest => (.bool false, rest)
    | '\x22' :: rest => (text? rest).map fun (s, rest) => (.text s, rest)
    | '[' :: rest =>
      match skipBlanks rest with
      | ']' :: rest => some (.list [], rest)
      | rest => (items? fuel rest).map fun (items, rest) => (.list items, rest)
    | '\x7b' :: rest =>
      match skipBlanks rest with
      | '\x7d' :: rest => some (.object [], rest)
      | rest => (members? fuel rest).map fun (members, rest) => (.object members, rest)
    | _ => number? cs

/-- The elements of a list, from the first one to the closing bracket. -/
def items? : Nat → List Char → Option (List Document × List Char)
  | 0, _ => none
  | fuel + 1, cs => do
    let (v, rest) ← value? fuel cs
    match skipBlanks rest with
    | ']' :: rest => pure ([v], rest)
    | ',' :: rest =>
      let (items, rest) ← items? fuel (skipBlanks rest)
      pure (v :: items, rest)
    | _ => none

/-- The members of an object, from the first one to the closing brace. -/
def members? : Nat → List Char → Option (List (Option String × Document) × List Char)
  | 0, _ => none
  | fuel + 1, cs =>
    match cs with
    | '\x22' :: rest => do
      let (name, rest) ← text? rest
      match skipBlanks rest with
      | ':' :: rest =>
        let (v, rest) ← value? fuel (skipBlanks rest)
        match skipBlanks rest with
        | '\x7d' :: rest => pure ([(name, v)], rest)
        | ',' :: rest =>
          let (members, rest) ← members? fuel (skipBlanks rest)
          pure ((name, v) :: members, rest)
        | _ => none
      | _ => none
    | _ => none

end

/-- What a text says, if it is one JSON value between blanks. A list, an object and each of their
parts take at least one character, so twice the length of the text bounds the nesting of calls. -/
def read? (s : String) : Option Document :=
  let cs := skipBlanks s.toList
  match value? (2 * cs.length + 2) cs with
  | some (v, rest) => if (skipBlanks rest).isEmpty then some v else none
  | none => none

mutual

/-- How deeply lists and objects are nested. -/
def depth : Document → Nat
  | list items => itemsDepth items + 1
  | object members => membersDepth members + 1
  | _ => 0

/-- The greatest depth of the elements of a list. -/
def itemsDepth : List Document → Nat
  | [] => 0
  | v :: rest => max (depth v) (itemsDepth rest)

/-- The greatest depth of the members of an object. -/
def membersDepth : List (Option String × Document) → Nat
  | [] => 0
  | (_, v) :: rest => max (depth v) (membersDepth rest)

end

mutual

/-- Whether every text in a document is one and every number has a finite value. -/
def isSound : Document → Bool
  | decimal digits exponent => Double.isFinite digits exponent
  | text content => content.isSome
  | list items => soundItems items
  | object members => soundMembers members
  | _ => true

/-- Whether every element of a list is sound. -/
def soundItems : List Document → Bool
  | [] => true
  | v :: rest => isSound v && soundItems rest

/-- Whether every member of an object is sound, its name included. -/
def soundMembers : List (Option String × Document) → Bool
  | [] => true
  | (name, v) :: rest => name.isSome && isSound v && soundMembers rest

end

end Document

end Strata
