import Strata.Text.Emoji
import Strata.Text.Joining

/-!
# The width of texts

How many columns a text takes in a table set in a fixed-width font. That is the sum over its
characters, but for characters that are shown as one sign: a selector turns the character before it
into a picture or into text; a picture with a skin tone, and pictures with joiners between them, are
one picture; two regional letters are a flag; and in some scripts letters join.

A text is measured from its end. What is behind a character (`Ahead`) decides what the character
adds, and `advance` is one step. A text is one line here, without line feeds.
-/

namespace Strata.Text

/-- What a selector asks of the character before it. -/
inductive Selector where
  /-- To be a picture. -/
  | picture
  /-- To be text. -/
  | text
  /-- To be a quotation mark of two columns. -/
  | fullQuote
  deriving DecidableEq

/-- What a text begins with, as far as it bears on the character before it. -/
inductive Start where
  /-- Nothing that does. -/
  | other
  /-- A skin tone. -/
  | tone
  /-- One regional letter. -/
  | regional
  /-- Two regional letters, or more. -/
  | flag
  /-- A picture. -/
  | picture
  /-- A joiner and a picture. -/
  | joinedPicture
  /-- The frame of a key, a joiner and a picture. -/
  | joinedKey
  /-- One regional letter, a joiner and a picture. -/
  | joinedRegional
  /-- Pairs of regional letters, a joiner and a picture. -/
  | joinedFlag
  /-- Pairs of regional letters with one letter before them, a joiner and a picture. -/
  | joinedOddFlag
  /-- A number of tag letters, the end of the tag, a joiner and a picture. -/
  | tagLetters (count : Nat)
  /-- A number of tag digits, perhaps tag letters, the end of the tag, a joiner and a picture. -/
  | tagDigits (count : Nat)
  /-- The Kirat Rai vowel e. -/
  | vowelE
  /-- The Kirat Rai vowel ai. -/
  | vowelAi
  /-- An Arabic alef. -/
  | alef
  /-- A Hebrew lamed, perhaps behind a joiner. -/
  | lamed (joined : Bool)
  /-- A Buginese ya, perhaps behind a joiner. -/
  | ya (joined : Bool)
  /-- The Buginese vowel i, a joiner and a ya. -/
  | vowelYa
  /-- A Tifinagh consonant, perhaps behind a joiner. -/
  | consonant (joined : Bool)
  /-- The Tifinagh joiner and a consonant. -/
  | joinedConsonant
  /-- A second Lisu tone letter. -/
  | toneLetter
  /-- An Old Turkic i, perhaps behind a joiner. -/
  | turkicI (joined : Bool)
  /-- A Khmer letter that can be written below another one. -/
  | subscript
  deriving DecidableEq

/-- What is behind a character: a selector that is not used up yet, and what follows it. -/
structure Ahead where
  /-- The selector. -/
  selector? : Option Selector
  /-- What the text behind the selector begins with. -/
  start : Start
  deriving DecidableEq

/-- The selector that a character is. -/
def Selector.of? (c : Char) : Option Selector :=
  if c = '\ufe0f' then some picture
  else if c = '\ufe0e' then some text
  else if c = '\ufe01' then some fullQuote
  else none

namespace Start

/-- What a character begins by itself. -/
def of (c : Char) : Start :=
  if Emoji.isTone c then tone
  else if Emoji.isRegional c then regional
  else if Emoji.isPicture c then picture
  else if Joining.isAlef c then alef
  else if Joining.isConsonant c then consonant false
  else if Joining.isSubscript c then subscript
  else if c = '\u05dc' then lamed false
  else if c = '\u1a10' then ya false
  else if c = '\ua4fc' ∨ c = '\ua4fd' then toneLetter
  else if c = Char.ofNat 0x10c03 then turkicI false
  else if c = Char.ofNat 0x16d67 then vowelE
  else if c = Char.ofNat 0x16d68 then vowelAi
  else other

/-- Whether a letter still joins when joiners and ignorable marks stand before it. -/
def skipsMarks : Start → Bool
  | lamed _ | ya _ | vowelYa | consonant _ | joinedConsonant | toneLetter | turkicI _
  | subscript => true
  | _ => false

/-- Whether a letter still joins when an unused selector stands before it. -/
def skipsSelectors (s : Start) : Bool := s.skipsMarks || s == alef

/-- A letter with a joiner before it. -/
def withJoiner : Start → Start
  | lamed _ => lamed true
  | ya _ => ya true
  | consonant _ => consonant true
  | turkicI _ => turkicI true
  | s => s

/-- Whether a picture that joins may come before a selector. -/
def awaitsPicture : Start → Bool
  | joinedPicture | joinedKey => true
  | _ => false

/-- What a character adds when it joins what is behind it, and what the text begins with then. None
if it does not join. -/
def join? (c : Char) : Start → Option (Int × Start)
  | alef =>
    if Joining.isLam c then some (0, other)
    else if Joining.isTransparent c then some (0, alef)
    else none
  | lamed true => if c = '\u05d0' then some (0, other) else none
  | ya true => if c = '\u1a17' then some (0, vowelYa) else none
  | vowelYa => if c = '\u1a15' then some (0, other) else none
  | consonant joined =>
    if c = '\u2d7f' then some (1, joinedConsonant)
    else if joined && Joining.isConsonant c then some (0, other)
    else none
  -- The Tifinagh joiner was counted as one column, which it does not take between consonants.
  | joinedConsonant => if Joining.isConsonant c then some (-1, other) else none
  | toneLetter => if inRanges [(0xa4f8, 0xa4fb)] c then some (0, other) else none
  | turkicI true => if c = Char.ofNat 0x10c32 then some (0, other) else none
  -- The letter was counted as one column, which it does not take below another one.
  | subscript => if c = '\u17d2' then some (-1, other) else none
  | vowelE =>
    if c = Char.ofNat 0x16d63 ∨ c = Char.ofNat 0x16d69 then some (0, other)
    else if c = Char.ofNat 0x16d67 then some (0, vowelAi)
    else if c = Char.ofNat 0x16d68 then some (1, vowelE)
    else none
  | vowelAi => if c = Char.ofNat 0x16d63 then some (0, other) else none
  | tone =>
    if Emoji.isTonable c then some (0, picture)
    else if c = '\u200d' then some (0, joinedPicture)
    else none
  | regional => if Emoji.isRegional c then some (1, flag) else none
  | flag =>
    if Emoji.isRegional c then some (1, flag)
    else if c = '\u200d' then some (0, joinedPicture)
    else none
  | picture => if c = '\u200d' then some (0, joinedPicture) else none
  | joinedPicture =>
    if c = '\u20e3' then some (0, joinedKey)
    else if Emoji.isRegional c then some (1, joinedRegional)
    else if Emoji.isTone c then some (0, tone)
    else if c = Char.ofNat 0xe007f then some (0, tagLetters 0)
    else if Emoji.isPicture c then some (0, picture)
    else none
  -- A regional letter before a joiner stands alone, and a pair takes part in the picture.
  | joinedRegional => if Emoji.isRegional c then some (-1, joinedFlag) else none
  | joinedFlag =>
    if Emoji.isRegional c then some (3, joinedOddFlag)
    else if c = '\u200d' then some (0, joinedPicture)
    else none
  | joinedOddFlag =>
    if Emoji.isRegional c then some (-1, joinedFlag)
    else if c = '\u200d' then some (0, joinedPicture)
    else none
  | tagLetters n =>
    if Emoji.isTagLetter c then if n < 6 then some (0, tagLetters (n + 1)) else none
    else if Emoji.isTagDigit c then if n ≤ 4 then some (0, tagDigits 1) else none
    else if c = Char.ofNat 0x1f3f4 ∧ 3 ≤ n then some (0, picture)
    else none
  | tagDigits n =>
    if Emoji.isTagDigit c then if n < 3 then some (0, tagDigits (n + 1)) else none
    else if c = Char.ofNat 0x1f3f4 ∧ n = 3 then some (0, picture)
    else none
  | _ => none

/-- What a character adds before a text, and what the text begins with then. -/
def advance (c : Char) (s : Start) : Int × Start :=
  if s.skipsMarks && c == '\u200d' then (0, s.withJoiner)
  else if s.skipsMarks && Joining.isIgnorableMark c then (0, s)
  else (join? c s).getD (charColumns c, of c)

end Start

namespace Ahead

/-- Nothing is behind the character. -/
def nothing : Ahead := ⟨none, .other⟩

/-- With a selector before what is ahead. -/
def select (a : Ahead) : Selector → Ahead
  | .picture =>
    ⟨some .picture, if a.start.skipsSelectors || a.start.awaitsPicture then a.start else .other⟩
  | s => ⟨some s, if a.start.skipsSelectors then a.start else .other⟩

/-- What is ahead when its selector is of no use to the character before it. -/
def unselected (a : Ahead) : Start :=
  match a.selector? with
  | some .picture => if a.start.skipsSelectors then a.start else .other
  | _ => a.start

/-- What a character adds that uses the selector behind it. None if there is no such selector, or if
it is of no use to the character. -/
def useSelector? (c : Char) (a : Ahead) : Option (Int × Start) :=
  match a.selector? with
  | some .picture =>
    if Emoji.isSelectable c then some (if a.start.awaitsPicture then 0 else 2, .picture) else none
  | some .text => if Emoji.hasTextForm c then some (1, .other) else none
  | some .fullQuote =>
    if inRanges [(0x2018, 0x2019), (0x201c, 0x201d)] c then some (2, .other) else none
  | none => none

/-- What a character adds, and what is ahead of the character before it. -/
def advance (c : Char) (a : Ahead) : Int × Ahead :=
  match useSelector? c a with
  | some (n, start) => (n, ⟨none, start⟩)
  | none =>
    if c.toNat ≤ 0xa0 then (1, nothing)
    else
      match Selector.of? c with
      | some s => (0, select ⟨none, a.unselected⟩ s)
      | none =>
        let (n, start) := a.unselected.advance c
        (n, ⟨none, start⟩)

end Ahead

/-- The columns that a text takes, and what it begins with. -/
def measure : List Char → Int × Ahead
  | [] => (0, .nothing)
  | c :: cs =>
    let (columns, ahead) := measure cs
    let (n, ahead) := ahead.advance c
    (columns + n, ahead)

/-- The columns that a text takes. -/
def columns (s : String) : Nat := (measure s.toList).1.toNat

end Strata.Text
