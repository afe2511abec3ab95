import Strata.Proofs.Outcomes
import Strata.Transform.Pass
import Mathlib.Data.List.Forall2

/-!
# Passes do not depend on their workers

However a pass is divided, its chunks are the records in order (`flatten_chunks`), and the results
of the chunks put together are those of one worker (`runPass_eq_applyAll`), the error included: the
first chunk that fails is the one with the first record that fails. One worker gives the outputs of
the records in order (`applyAll_eq_ok_iff`), or the error of the first that fails
(`applyAll_eq_error_iff`).
-/

namespace Strata.Transform

section Chunks

variable {α β ε : Type}

/-- Chunks put together are the list that was cut. -/
theorem flatten_chunks (size cuts : Nat) (xs : List α) : (chunks size cuts xs).flatten = xs := by
  induction cuts generalizing xs with
  | zero => simp [chunks]
  | succ cuts ih =>
    unfold chunks
    split
    · simp
    · rw [List.flatten_cons, ih, List.take_append_drop]

/-- The results of chunks put together are the result for the chunks put together. -/
theorem concatResults_map_mapM (f : α → Except ε β) (parts : List (List α)) :
    concatResults (parts.map fun xs => xs.mapM f) = parts.flatten.mapM f := by
  induction parts with
  | nil => rfl
  | cons xs rest ih =>
    rw [List.map_cons, List.flatten_cons, List.mapM_append]
    cases xs.mapM f with
    | error e => rfl
    | ok ys =>
      unfold concatResults
      rw [ih]
      cases rest.flatten.mapM f <;> rfl

end Chunks

variable {t : Transform} {cx : Context} {records : List Record}

/-- A pass gives what one worker gives. -/
theorem runPass_eq_applyAll (t : Transform) (cx : Context) (config : PassConfig)
    (records : List Record) : t.runPass cx config records = t.applyAll cx records := by
  unfold runPass
  dsimp only
  split
  · rfl
  · unfold applyAll
    rw [concatResults_map_mapM, flatten_chunks]

/-- A pass succeeds with outputs exactly when each is the output for the record in its place. -/
theorem applyAll_eq_ok_iff {outputs : List Output} :
    t.applyAll cx records = .ok outputs ↔
      List.Forall₂ (fun r output => t r cx = .ok output) records outputs := by
  unfold applyAll
  induction records generalizing outputs with
  | nil =>
    constructor
    · intro h
      cases h
      exact .nil
    · intro h
      cases h
      rfl
  | cons r rest ih =>
    rw [List.mapM_cons, bind_eq_ok_iff]
    constructor
    · rintro ⟨output, hr, h⟩
      rw [bind_eq_ok_iff] at h
      obtain ⟨more, hrest, h⟩ := h
      cases h
      exact .cons hr (ih.1 hrest)
    · intro h
      cases h with
      | @cons _ output _ more hr hrest =>
        exact ⟨output, hr, bind_eq_ok_iff.2 ⟨more, ih.2 hrest, rfl⟩⟩

/-- A pass fails exactly when a record does before which no other did, and with its error. -/
theorem applyAll_eq_error_iff {e : MigrationError} :
    t.applyAll cx records = .error e ↔
      ∃ before r after, records = before ++ r :: after ∧
        (∀ b ∈ before, ∃ output, t b cx = .ok output) ∧ t r cx = .error e := by
  unfold applyAll
  induction records with
  | nil =>
    constructor
    · intro h
      cases h
    · rintro ⟨before, r, after, h, -⟩
      exact absurd h.symm (List.append_ne_nil_of_right_ne_nil before (List.cons_ne_nil r after))
  | cons r rest ih =>
    have hlast : ∀ output, (rest.mapM (t · cx) >>= fun more => pure (output :: more)) = .error e ↔
        rest.mapM (t · cx) = .error e := by
      intro output
      rw [bind_eq_error_iff]
      exact or_iff_left fun ⟨_, _, h⟩ => nomatch h
    rw [List.mapM_cons, bind_eq_error_iff]
    simp only [hlast, ih]
    constructor
    · rintro (hr | ⟨output, hr, before, r', after, rfl, hbefore, hr'⟩)
      · exact ⟨[], r, rest, rfl, (fun _ hb => nomatch hb), hr⟩
      · refine ⟨r :: before, r', after, rfl, fun b hb => ?_, hr'⟩
        rcases List.mem_cons.1 hb with rfl | hb
        · exact ⟨output, hr⟩
        · exact hbefore b hb
    · rintro ⟨before, r', after, h, hbefore, hr'⟩
      cases before with
      | nil =>
        cases h
        exact .inl hr'
      | cons b before =>
        cases h
        obtain ⟨output, hr⟩ := hbefore r List.mem_cons_self
        exact .inr ⟨output, hr, before, r', after, rfl,
          fun b hb => hbefore b (List.mem_cons_of_mem r hb), hr'⟩

/-- A pass that fails does so at one of the records. -/
theorem exists_of_applyAll_eq_error {e : MigrationError}
    (h : t.applyAll cx records = .error e) : ∃ r ∈ records, t r cx = .error e := by
  obtain ⟨before, r, after, rfl, -, hr⟩ := applyAll_eq_error_iff.1 h
  exact ⟨r, List.mem_append_right before List.mem_cons_self, hr⟩

/-- The fallbacks of one output come on top of those of the others. -/
theorem totalFallbacks_cons (output : Output) (outputs : List Output) :
    totalFallbacks (output :: outputs) = output.fallbacks + totalFallbacks outputs := rfl

/-- Outputs that fall back at most once each fall back as often as there are some that do. -/
theorem totalFallbacks_map_eq_countP {f : Record → Output} {p : Record → Bool}
    (h : ∀ r ∈ records, (f r).fallbacks = if p r then 1 else 0) :
    totalFallbacks (records.map f) = records.countP p := by
  induction records with
  | nil => rfl
  | cons r rest ih =>
    rw [List.map_cons, totalFallbacks_cons, ih fun r' hr' => h r' (List.mem_cons_of_mem r hr'),
      h r List.mem_cons_self, List.countP_cons, Nat.add_comm]

end Strata.Transform
