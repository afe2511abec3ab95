/-!
# Texts as bytes

A text as the bytes of its UTF-8 form, and the texts that bytes stand for. `ofBytes?_eq_some_iff`
says that reading undoes writing and accepts nothing else.
-/

namespace Strata

/-- A sequence of bytes. -/
abbrev Bytes := List UInt8

namespace Text

/-- The UTF-8 bytes of a text. -/
def toBytes (s : String) : Bytes := s.toByteArray.data.toList

/-- The text whose UTF-8 form the bytes are, if they are one. -/
def ofBytes? (bytes : Bytes) : Option String := String.fromUTF8? ⟨⟨bytes⟩⟩

/-- Bytes read as a text exactly when they are that text's UTF-8 form. -/
theorem ofBytes?_eq_some_iff {bytes : Bytes} {s : String} :
    ofBytes? bytes = some s ↔ bytes = toBytes s := by
  unfold ofBytes? String.fromUTF8? toBytes
  constructor
  · intro h
    split at h
    · cases h
      rfl
    · cases h
  · rintro rfl
    rw [dif_pos s.isValidUTF8]
    rfl

/-- The bytes of a text read back as that text. -/
theorem ofBytes?_toBytes (s : String) : ofBytes? (toBytes s) = some s :=
  ofBytes?_eq_some_iff.2 rfl

/-- Different texts have different bytes. -/
theorem toBytes_injective {s t : String} (h : toBytes s = toBytes t) : s = t := by
  have hs := ofBytes?_toBytes s
  rw [h, ofBytes?_toBytes] at hs
  exact (Option.some.inj hs).symm

end Text

end Strata
