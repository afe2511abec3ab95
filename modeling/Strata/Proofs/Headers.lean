import Strata.Store.Transaction

/-!
# Headers of stores

The version and the fingerprint in the header of a store are bytes, which may be of another length
than a version or a fingerprint has. A version is read exactly if the slot holds one
(`Store.readStamp_eq_some_iff`), and bytes are read as a fingerprint exactly if there are as many as
in a digest (`Store.readFingerprint_eq_ok_iff`). The fingerprint of a schema has that length
(`Schema.length_fingerprint`), so the header of a store of that schema is read.
-/

namespace Strata

/-- A digest has 32 bytes. -/
theorem Digest.Blake3.length_digest (bytes : Bytes) : (digest bytes).length = 32 := by
  unfold digest
  dsimp only
  have hword : ∀ w : UInt32, (wordBytes w).length = 4 := fun _ => rfl
  rw [List.length_flatMap]
  simp only [hword, List.map_const', Vector.length_toList, List.sum_replicate_nat]

/-- The fingerprint of a schema has the length of a fingerprint. -/
theorem Schema.length_fingerprint (schema : Schema) : schema.fingerprint.length = 32 :=
  Digest.Blake3.length_digest schema.stream

namespace Store

/-- A store at a version without records. -/
def ofSchema (schema : Schema) (version : Nat) : Store :=
  { empty with
    schema? := some schema
    version? := some (.readable version)
    fingerprint? := some schema.fingerprint }

/-- The version slot in the header of a store holds bytes that are no version. -/
def IllegibleStamp (s : Store) : Prop :=
  ∃ bytes malformed, s.version? = some (.corrupted bytes malformed)

variable {s : Store} {e : StoreError} {version : Nat}

/-- A version is read exactly if the header holds it. -/
theorem readStamp_eq_some_iff : s.readStamp = .ok (some version) ↔ s.stamped? = some version := by
  unfold readStamp stamped?
  rcases s.version? with _ | ⟨version⟩ | ⟨bytes, malformed⟩ <;> simp

/-- No version is read exactly if the header has none. -/
theorem readStamp_eq_none_iff : s.readStamp = .ok none ↔ s.version? = none := by
  unfold readStamp
  rcases s.version? with _ | ⟨version⟩ | ⟨bytes, malformed⟩ <;> simp

/-- The version cannot be read exactly if the slot holds other bytes. -/
theorem readStamp_eq_error_iff :
    s.readStamp = .error e ↔
      e = .invalidData "stamped version is not 8 bytes" ∧ s.IllegibleStamp := by
  unfold readStamp IllegibleStamp
  rcases s.version? with _ | ⟨version⟩ | ⟨bytes, malformed⟩
  · simp
  · simp
  · simp [malformed, eq_comm]

/-- A version that is read, or none, is the version in the header. -/
theorem stamped?_of_readStamp {stamped? : Option Nat} (h : s.readStamp = .ok stamped?) :
    s.stamped? = stamped? := by
  cases stamped? with
  | none =>
    unfold Store.stamped?
    rw [readStamp_eq_none_iff.1 h]
  | some version => exact readStamp_eq_some_iff.1 h

/-- Bytes are read as a fingerprint exactly if they have the length of one. -/
theorem readFingerprint_eq_ok_iff {found : Option Fingerprint} :
    s.readFingerprint = .ok found ↔
      s.fingerprint? = found ∧ ∀ bytes ∈ found, bytes.length = 32 := by
  unfold readFingerprint
  rcases s.fingerprint? with _ | bytes
  · simp +contextual [eq_comm]
  · by_cases hlength : bytes.length = 32 <;> simp +contextual [hlength, eq_comm]

/-- The fingerprint of a schema is read exactly if the header holds it. -/
theorem readFingerprint_eq_fingerprint_iff {schema : Schema} :
    s.readFingerprint = .ok (some schema.fingerprint) ↔
      s.fingerprint? = some schema.fingerprint := by
  rw [readFingerprint_eq_ok_iff]
  refine ⟨And.left, fun h => ⟨h, fun bytes hbytes => ?_⟩⟩
  rw [← Option.some.inj hbytes]
  exact schema.length_fingerprint

end Store

end Strata
