import Strata.StorageKey
import Mathlib.Algebra.Group.Nat.Defs

/-!
# Storage keys read back

The byte between an entity name and a key is zero, and the UTF-8 form of a text holds a zero byte
only where the text holds the null character (`Text.eq_nul_of_zero_mem`). So an entity name without
that character (`NulFree`) ends at the first zero byte of a storage key, and three things follow:
the key and the entity are read back (`decode?_encode`), different records have different storage
keys (`encode_injective`), and the keys that open with a name are those of that entity's records
(`opening_isPrefixOf_encode`). The other way round, nothing is read back but what was written, and
the bytes that are refused are those that are `Malformed` (`codec_exact`).
-/

namespace Strata

/-- A text without the null character. -/
def NulFree (s : String) : Prop := '\x00' ∉ s.toList

instance (s : String) : Decidable (NulFree s) := inferInstanceAs (Decidable (_ ∉ _))

namespace Text

/-- The bytes of a text are those of its characters, one after the other. -/
theorem toBytes_eq_flatMap (s : String) : toBytes s = s.toList.flatMap String.utf8EncodeChar := by
  have h : s.toByteArray = s.toList.utf8Encode := String.utf8Encode_toList.symm
  unfold toBytes
  rw [h, List.utf8Encode, List.data_toByteArray]

/-- A byte of a number between zero and 256 is not zero. -/
theorem zero_ne_ofNat {n : Nat} (hpos : 0 < n) (hlt : n < 256) : (0 : UInt8) ≠ UInt8.ofNat n := by
  intro h
  have hzero := congrArg UInt8.toNat h
  rw [UInt8.toNat_ofNat_of_lt' hlt] at hzero
  exact absurd hzero (Nat.ne_of_lt hpos)

/-- A character whose UTF-8 form holds a zero byte is the null character. -/
theorem eq_nul_of_zero_mem {c : Char} (h : 0 ∈ String.utf8EncodeChar c) : c = '\x00' := by
  unfold String.utf8EncodeChar at h
  dsimp only at h
  split at h
  · next hle =>
    -- The one byte of a short form is the code point.
    have hzero : c.val.toNat = 0 := by
      rcases Nat.eq_zero_or_pos c.val.toNat with hzero | hpos
      · exact hzero
      · exact absurd (List.mem_singleton.1 h) (zero_ne_ofNat hpos (by omega))
    exact Char.ext (UInt32.toNat_inj.1 hzero)
  -- Every byte of a longer form is at least 0x80.
  split at h
  · simp only [List.mem_cons, List.not_mem_nil, or_false] at h
    rcases h with h | h <;> exact absurd h (zero_ne_ofNat (by omega) (by omega))
  split at h
  · simp only [List.mem_cons, List.not_mem_nil, or_false] at h
    rcases h with h | h | h <;> exact absurd h (zero_ne_ofNat (by omega) (by omega))
  · simp only [List.mem_cons, List.not_mem_nil, or_false] at h
    rcases h with h | h | h | h <;> exact absurd h (zero_ne_ofNat (by omega) (by omega))

/-- The bytes of a text without the null character hold no zero. -/
theorem zero_notMem_toBytes {s : String} (h : NulFree s) : 0 ∉ toBytes s := by
  rw [toBytes_eq_flatMap, List.mem_flatMap]
  rintro ⟨c, hc, hzero⟩
  exact h (eq_nul_of_zero_mem hzero ▸ hc)

/-- The bytes of a text hold no zero exactly when the text does not hold the null character. -/
theorem zero_notMem_toBytes_iff {s : String} : 0 ∉ toBytes s ↔ NulFree s := by
  constructor
  · intro hzero hnul
    have hbyte : 0 ∈ String.utf8EncodeChar '\x00' := by decide
    have hmem : 0 ∈ toBytes s := by
      rw [toBytes_eq_flatMap]
      exact List.mem_flatMap_of_mem hnul hbyte
    exact hzero hmem
  · exact zero_notMem_toBytes

/-- Bytes are refused as a text exactly when they are the UTF-8 form of none. -/
theorem ofBytes?_eq_none_iff {bytes : Bytes} :
    ofBytes? bytes = none ↔ ∀ s, bytes ≠ toBytes s := by
  rw [Option.eq_none_iff_forall_ne_some]
  exact forall_congr' fun s => not_congr ofBytes?_eq_some_iff

end Text

namespace StorageKey

variable {name rest bytes : Bytes}

/-- Bytes that do not contain the separator all differ from it. -/
theorem bne_separator (h : separator ∉ bytes) :
    ∀ b ∈ bytes, (b != separator) = true := by
  intro b hb
  rw [bne_iff_ne]
  rintro rfl
  exact h hb

/-- No byte of a name without the null character is the separator. -/
theorem ne_separator_of_mem {entity : String} (h : NulFree entity) :
    ∀ b ∈ Text.toBytes entity, (b != separator) = true :=
  bne_separator (Text.zero_notMem_toBytes h)

/-- Bytes without a separator are no storage key. -/
theorem decode?_of_separator_notMem (h : separator ∉ bytes) : decode? bytes = none := by
  have hdrop : bytes.dropWhile (· != separator) = [] := by
    have happend : (bytes ++ []).dropWhile (· != separator) = [] :=
      List.dropWhile_append_of_pos (bne_separator h)
    rwa [List.append_nil] at happend
  unfold decode?
  rw [hdrop]

/-- The bytes before the first separator are read as the entity, and those behind it as the key. -/
theorem decode?_append_separator (h : separator ∉ name) :
    decode? (name ++ separator :: rest) =
      (Text.ofBytes? name).bind fun entity => (decodeKey? rest).map fun key => (entity, key) := by
  have htake : (name ++ separator :: rest).takeWhile (· != separator) = name := by
    rw [List.takeWhile_append_of_pos (bne_separator h)]
    simp
  have hdrop : (name ++ separator :: rest).dropWhile (· != separator) = separator :: rest := by
    rw [List.dropWhile_append_of_pos (bne_separator h)]
    simp
  unfold decode?
  rw [hdrop, htake]
  dsimp only
  cases Text.ofBytes? name <;> cases decodeKey? rest <;> rfl

/-- A storage key is the name of the entity, the separator, and the key. -/
theorem encode_eq (entity : String) (key : Key) :
    encode entity key = Text.toBytes entity ++ separator :: keyBytes key := by
  unfold encode opening
  rw [List.append_assoc, List.singleton_append]

/-- What comes before the first separator of a storage key is the entity name. -/
theorem takeWhile_encode {entity : String} (h : NulFree entity) (key : Key) :
    (encode entity key).takeWhile (· != separator) = Text.toBytes entity := by
  rw [encode_eq, List.takeWhile_append_of_pos (ne_separator_of_mem h)]
  simp

/-- The tag and content of a key are read back as that key. -/
theorem decodeKey?_keyBytes (key : Key) : decodeKey? (keyBytes key) = some key := by
  have hcapacity : BigEndian.capacity 8 = 2 ^ 64 := rfl
  cases key with
  | int i =>
    have hlo : (-0x8000000000000000 : Int) ≤ i.toInt := Int64.le_toInt i
    have hhi : i.toInt < 0x8000000000000000 := Int64.toInt_lt i
    have hfits : (i.toInt + shift).toNat < BigEndian.capacity 8 := by
      rw [hcapacity]
      unfold shift
      omega
    have hback : (((i.toInt + shift).toNat : Nat) : Int) - shift = i.toInt := by
      unfold shift
      omega
    unfold keyBytes decodeKey?
    dsimp only
    rw [if_pos rfl, if_pos (BigEndian.length_digits 8 _), BigEndian.value_digits 8 _ hfits, hback,
      Int64.ofInt_toInt]
  | str s =>
    unfold keyBytes decodeKey?
    dsimp only
    rw [if_neg (by decide), if_pos rfl, Text.ofBytes?_toBytes]
    rfl
  | row r =>
    have hfits : r.toNat < BigEndian.capacity 8 := by
      rw [hcapacity]
      exact r.toNat_lt
    unfold keyBytes decodeKey?
    dsimp only
    rw [if_neg (by decide), if_neg (by decide), if_pos rfl,
      if_pos (BigEndian.length_digits 8 _), BigEndian.value_digits 8 _ hfits, UInt64.ofNat_toNat]

/-- The entity and the key of a record are read back from its storage key. -/
theorem decode?_encode {entity : String} (h : NulFree entity) (key : Key) :
    decode? (encode entity key) = some (entity, key) := by
  rw [encode_eq, decode?_append_separator (Text.zero_notMem_toBytes h), Text.ofBytes?_toBytes,
    decodeKey?_keyBytes]
  rfl

/-- Different records have different storage keys. -/
theorem encode_injective {entity other : String} {key key' : Key} (h : NulFree entity)
    (hother : NulFree other) (heq : encode entity key = encode other key') :
    entity = other ∧ key = key' := by
  have hdecode := decode?_encode h key
  rw [heq, decode?_encode hother] at hdecode
  cases hdecode
  exact ⟨rfl, rfl⟩

/-- A storage key opens with the name of an entity exactly when it is the key of a record of that
entity. -/
theorem opening_isPrefixOf_encode {entity other : String} {key : Key} (h : NulFree entity)
    (hother : NulFree other) :
    (opening entity).isPrefixOf (encode other key) = true ↔ entity = other := by
  rw [List.isPrefixOf_iff_prefix]
  constructor
  · rintro ⟨rest, hrest⟩
    -- Both names end at the first separator of the same bytes.
    have htake := takeWhile_encode hother key
    unfold opening at hrest
    rw [← hrest, List.append_assoc, List.takeWhile_append_of_pos (ne_separator_of_mem h),
      List.singleton_append, List.takeWhile_cons] at htake
    refine Text.toBytes_injective ?_
    simpa using htake
  · rintro rfl
    exact List.prefix_append _ _

/-! ## What is read back, and what is refused -/

/-- Eight bytes are the digits of the number that they stand for, which fits 64 bits. -/
theorem value_of_length {content : Bytes} (hlength : content.length = 8) :
    BigEndian.value content < 2 ^ 64 ∧ BigEndian.digits 8 (BigEndian.value content) = content := by
  have hlt := BigEndian.value_lt content
  have hdigits := BigEndian.digits_value content
  rw [hlength] at hlt hdigits
  exact ⟨hlt, hdigits⟩

/-- Eight bytes read as an integer are the content of that integer's key. -/
theorem keyBytes_int_value {content : Bytes} (hlength : content.length = 8) :
    keyBytes (.int (Int64.ofInt ((BigEndian.value content : Int) - shift))) = 1 :: content := by
  obtain ⟨hlt, hdigits⟩ := value_of_length hlength
  -- Shifted back, eight bytes are in the range of the integers, so nothing wraps around.
  have hrange : (Int64.ofInt ((BigEndian.value content : Int) - shift)).toInt =
      (BigEndian.value content : Int) - shift := by
    refine Int64.toInt_ofInt_of_le ?_ ?_
    · unfold shift
      omega
    · unfold shift
      omega
  have hback : ((BigEndian.value content : Int) - shift + shift).toNat =
      BigEndian.value content := by omega
  unfold keyBytes
  dsimp only
  rw [hrange, hback, hdigits]

/-- Eight bytes read as a row number are the content of that row's key. -/
theorem keyBytes_row_value {content : Bytes} (hlength : content.length = 8) :
    keyBytes (.row (UInt64.ofNat (BigEndian.value content))) = 3 :: content := by
  obtain ⟨hlt, hdigits⟩ := value_of_length hlength
  unfold keyBytes
  dsimp only
  rw [UInt64.toNat_ofNat_of_lt' hlt, hdigits]

/-- A tag and content are read back as a key exactly when they are that key's. -/
theorem decodeKey?_eq_some_iff {bytes : Bytes} {key : Key} :
    decodeKey? bytes = some key ↔ bytes = keyBytes key := by
  refine ⟨fun h => ?_, fun h => h ▸ decodeKey?_keyBytes key⟩
  cases bytes with
  | nil => cases h
  | cons tag content =>
    unfold decodeKey? at h
    dsimp only at h
    by_cases hint : tag = 1
    · rw [if_pos hint] at h
      obtain ⟨hlength, hkey⟩ := Option.ite_none_right_eq_some.1 h
      cases hkey
      rw [keyBytes_int_value hlength, hint]
    rw [if_neg hint] at h
    by_cases hstr : tag = 2
    · rw [if_pos hstr] at h
      obtain ⟨s, hs, rfl⟩ := Option.map_eq_some_iff.1 h
      rw [hstr, Text.ofBytes?_eq_some_iff.1 hs]
      rfl
    rw [if_neg hstr] at h
    obtain ⟨hrow, h⟩ := Option.ite_none_right_eq_some.1 h
    obtain ⟨hlength, hkey⟩ := Option.ite_none_right_eq_some.1 h
    cases hkey
    rw [keyBytes_row_value hlength, hrow]

/-- A tag and content that stand for no key. -/
inductive MalformedKey : Bytes → Prop
  /-- There is no tag. -/
  | untagged : MalformedKey []
  /-- A number does not have exactly eight bytes. -/
  | number {tag : UInt8} {content : Bytes} (htag : tag = 1 ∨ tag = 3)
      (hlength : content.length ≠ 8) : MalformedKey (tag :: content)
  /-- The content of a text key is not the UTF-8 form of any text. -/
  | text {content : Bytes} (h : ∀ s, content ≠ Text.toBytes s) : MalformedKey (2 :: content)
  /-- There is no key of the tag's kind. -/
  | tag {tag : UInt8} {content : Bytes} (hint : tag ≠ 1) (hstr : tag ≠ 2) (hrow : tag ≠ 3) :
      MalformedKey (tag :: content)

/-- Bytes that are no storage key. -/
inductive Malformed : Bytes → Prop
  /-- No separator ends the entity name. -/
  | unseparated {bytes : Bytes} (h : separator ∉ bytes) : Malformed bytes
  /-- What is before the first separator is not the UTF-8 form of any text. -/
  | name {name rest : Bytes} (hsep : separator ∉ name) (h : ∀ s, name ≠ Text.toBytes s) :
      Malformed (name ++ separator :: rest)
  /-- What is behind the first separator stands for no key. -/
  | key {name rest : Bytes} (hsep : separator ∉ name) (h : MalformedKey rest) :
      Malformed (name ++ separator :: rest)

/-- The tags and contents that are refused are the malformed ones. -/
theorem decodeKey?_eq_none_iff : decodeKey? bytes = none ↔ MalformedKey bytes := by
  constructor
  · intro h
    cases bytes with
    | nil => exact .untagged
    | cons tag content =>
      unfold decodeKey? at h
      dsimp only at h
      by_cases hint : tag = 1
      · rw [if_pos hint, ite_eq_right_iff] at h
        exact .number (.inl hint) fun hlength => nomatch h hlength
      rw [if_neg hint] at h
      by_cases hstr : tag = 2
      · rw [if_pos hstr, Option.map_eq_none_iff, Text.ofBytes?_eq_none_iff] at h
        rw [hstr]
        exact .text h
      rw [if_neg hstr] at h
      by_cases hrow : tag = 3
      · rw [if_pos hrow, ite_eq_right_iff] at h
        exact .number (.inr hrow) fun hlength => nomatch h hlength
      · exact .tag hint hstr hrow
  · intro h
    cases h with
    | untagged => rfl
    | number htag hlength =>
      unfold decodeKey?
      rcases htag with rfl | rfl <;> simp [hlength]
    | text h =>
      unfold decodeKey?
      simp [Text.ofBytes?_eq_none_iff.2 h]
    | tag hint hstr hrow =>
      unfold decodeKey?
      simp [hint, hstr, hrow]

/-- Bytes that are read as an entity and a key are those that this record is stored under, and the
name is read from bytes without a separator, so that it has no null character. -/
theorem eq_encode_of_decode? {entity : String} {key : Key}
    (h : decode? bytes = some (entity, key)) : NulFree entity ∧ bytes = encode entity key := by
  have hsep : separator ∈ bytes := by
    refine Decidable.byContradiction fun hnot => ?_
    rw [decode?_of_separator_notMem hnot] at h
    cases h
  obtain ⟨name, rest, rfl, hname⟩ := List.eq_append_cons_of_mem hsep
  rw [decode?_append_separator hname] at h
  obtain ⟨entity', hentity, h⟩ := Option.bind_eq_some_iff.1 h
  obtain ⟨key', hkey, h⟩ := Option.map_eq_some_iff.1 h
  cases h
  have hbytes : name = Text.toBytes entity := Text.ofBytes?_eq_some_iff.1 hentity
  have hrest : rest = keyBytes key := decodeKey?_eq_some_iff.1 hkey
  subst hbytes hrest
  exact ⟨Text.zero_notMem_toBytes_iff.1 hname, (encode_eq entity key).symm⟩

/-- The bytes that are refused as a storage key are the malformed ones. -/
theorem decode?_eq_none_iff : decode? bytes = none ↔ Malformed bytes := by
  constructor
  · intro h
    by_cases hsep : separator ∈ bytes
    · obtain ⟨name, rest, rfl, hname⟩ := List.eq_append_cons_of_mem hsep
      rw [decode?_append_separator hname] at h
      cases hentity : Text.ofBytes? name with
      | none => exact .name hname (Text.ofBytes?_eq_none_iff.1 hentity)
      | some entity =>
        rw [hentity, Option.bind_some, Option.map_eq_none_iff] at h
        exact .key hname (decodeKey?_eq_none_iff.1 h)
    · exact .unseparated hsep
  · intro h
    cases h with
    | unseparated h => exact decode?_of_separator_notMem h
    | name hsep h =>
      rw [decode?_append_separator hsep, Text.ofBytes?_eq_none_iff.2 h]
      rfl
    | key hsep h =>
      rw [decode?_append_separator hsep, decodeKey?_eq_none_iff.2 h]
      cases Text.ofBytes? _ <;> rfl

/-- **The codec of storage keys is exact.** Bytes are read as an entity and a key exactly when the
entity has no null character and they are the bytes that this record is stored under, and the bytes
that are read as nothing are those without a separator, those whose name is not UTF-8, and those
whose key has no tag or an unknown one, a number that does not take eight bytes, or a text that is
not UTF-8. -/
theorem codec_exact (bytes : Bytes) :
    (∀ entity key, decode? bytes = some (entity, key) ↔
      NulFree entity ∧ bytes = encode entity key) ∧
    (decode? bytes = none ↔ Malformed bytes) := by
  refine ⟨fun entity key => ⟨eq_encode_of_decode?, ?_⟩, decode?_eq_none_iff⟩
  rintro ⟨hname, rfl⟩
  exact decode?_encode hname key

-- The separator may come again in a text key, and a number has to take all its bytes.
example : decode? [97, 0, 2, 0] = some ("a", .str "\x00") := rfl

example : decode? [97, 0, 1, 0] = none := rfl

end StorageKey

end Strata
