import Strata.Draft

/-!
# Computations that may fail

What is known when a computation in `Except`, or one in `Drawing`, has succeeded or failed: a
composed computation succeeds exactly when both of its parts do (`bind_eq_ok_iff`,
`Drawing.bind_ok_iff`), and an invariant of the parts of a fold is one of the fold
(`foldlM_induct`, `Drawing.foldlM_induct`).
-/

namespace Strata

section Except

variable {ε α β : Type}

/-- A composed computation succeeds exactly when both parts do. -/
theorem bind_eq_ok_iff {x : Except ε α} {f : α → Except ε β} {b : β} :
    x >>= f = .ok b ↔ ∃ a, x = .ok a ∧ f a = .ok b := by
  cases x with
  | error e =>
    constructor
    · intro h
      cases h
    · rintro ⟨_, h, _⟩
      cases h
  | ok a =>
    constructor
    · intro h
      exact ⟨a, rfl, h⟩
    · rintro ⟨_, h, hf⟩
      cases h
      exact hf

/-- A composed computation fails exactly when one of its parts does. -/
theorem bind_eq_error_iff {x : Except ε α} {f : α → Except ε β} {e : ε} :
    x >>= f = .error e ↔ x = .error e ∨ ∃ a, x = .ok a ∧ f a = .error e := by
  cases x with
  | error e' =>
    constructor
    · intro h
      cases h
      exact .inl rfl
    · rintro (h | ⟨_, h, _⟩)
      · cases h
        rfl
      · cases h
  | ok a =>
    constructor
    · intro h
      exact .inr ⟨a, rfl, h⟩
    · rintro (h | ⟨_, h, hf⟩)
      · cases h
      · cases h
        exact hf

/-- A test of every element succeeds exactly when every element passes. -/
theorem forM_eq_ok_iff {xs : List α} {f : α → Except ε Unit} :
    xs.forM f = .ok () ↔ ∀ x ∈ xs, f x = .ok () := by
  induction xs with
  | nil =>
    constructor
    · intro _ x hx
      cases hx
    · intro _
      rfl
  | cons x rest ih =>
    rw [List.forM_eq_forM, List.forM_cons, bind_eq_ok_iff]
    constructor
    · rintro ⟨⟨⟩, hx, hrest⟩ y hy
      rcases List.mem_cons.1 hy with rfl | hy
      · exact hx
      · exact ih.1 hrest y hy
    · intro h
      exact ⟨(), h x List.mem_cons_self, ih.2 fun y hy => h y (List.mem_cons_of_mem x hy)⟩

/-- A test of every element that fails does so at one of them. -/
theorem exists_of_forM_eq_error {xs : List α} {f : α → Except ε Unit} {e : ε}
    (h : xs.forM f = .error e) : ∃ x ∈ xs, f x = .error e := by
  induction xs with
  | nil => cases h
  | cons x rest ih =>
    rw [List.forM_eq_forM, List.forM_cons, bind_eq_error_iff] at h
    rcases h with h | ⟨_, _, h⟩
    · exact ⟨x, List.mem_cons_self, h⟩
    · obtain ⟨y, hy, hf⟩ := ih h
      exact ⟨y, List.mem_cons_of_mem x hy, hf⟩

/-- A fold that fails does so at one of its elements. -/
theorem exists_of_foldlM_eq_error {f : β → α → Except ε β} {xs : List α} {b : β} {e : ε}
    (h : xs.foldlM f b = .error e) : ∃ x ∈ xs, ∃ b, f b x = .error e := by
  induction xs generalizing b with
  | nil => cases h
  | cons x rest ih =>
    rw [List.foldlM_cons, bind_eq_error_iff] at h
    rcases h with h | ⟨b', _, h⟩
    · exact ⟨x, List.mem_cons_self, b, h⟩
    · obtain ⟨y, hy, hf⟩ := ih h
      exact ⟨y, List.mem_cons_of_mem x hy, hf⟩

/-- What holds at the start of a fold that succeeds, and is handed on by every step, holds at its
end. `motive` also speaks of the elements that are still to come. -/
theorem foldlM_induct {f : β → α → Except ε β} (motive : List α → β → Prop)
    (step : ∀ a rest b b', motive (a :: rest) b → f b a = .ok b' → motive rest b')
    {xs : List α} {b c : β} (h0 : motive xs b) (h : xs.foldlM f b = .ok c) : motive [] c := by
  induction xs generalizing b with
  | nil =>
    cases h
    exact h0
  | cons a rest ih =>
    rw [List.foldlM_cons, bind_eq_ok_iff] at h
    obtain ⟨b', ha, hrest⟩ := h
    exact ih (step a rest b b' h0 ha) hrest

end Except

namespace Drawing

variable {α β : Type}

/-- A composed computation runs its second part on the result and the counter of the first. -/
theorem run_bind (m : Drawing α) (f : α → Drawing β) (rows : RowCounter) :
    (m >>= f).run.run rows =
      match m.run.run rows with
      | (.ok a, rows') => (f a).run.run rows'
      | (.error e, rows') => (.error e, rows') := by
  rw [ExceptT.run_bind, StateT.run_bind]
  rcases m.run.run rows with ⟨e | a, rows'⟩ <;> rfl

/-- A composed computation succeeds exactly when both parts do, one after the other. -/
theorem bind_ok_iff {m : Drawing α} {f : α → Drawing β} {rows rows'' : RowCounter} {b : β} :
    (m >>= f).run.run rows = (.ok b, rows'') ↔
      ∃ a rows', m.run.run rows = (.ok a, rows') ∧ (f a).run.run rows' = (.ok b, rows'') := by
  rw [run_bind]
  rcases m.run.run rows with ⟨e | a, rows'⟩
  · constructor
    · intro h
      cases h
    · rintro ⟨_, _, h, _⟩
      cases h
  · constructor
    · intro h
      exact ⟨a, rows', rfl, h⟩
    · rintro ⟨_, _, h, hf⟩
      cases h
      exact hf

/-- A composed computation fails exactly when one of its parts does. -/
theorem bind_error_iff {m : Drawing α} {f : α → Drawing β} {rows rows'' : RowCounter}
    {e : MigrationError} :
    (m >>= f).run.run rows = (.error e, rows'') ↔
      m.run.run rows = (.error e, rows'') ∨
        ∃ a rows', m.run.run rows = (.ok a, rows') ∧
          (f a).run.run rows' = (.error e, rows'') := by
  rw [run_bind]
  rcases m.run.run rows with ⟨e' | a, rows'⟩
  · constructor
    · intro h
      cases h
      exact .inl rfl
    · rintro (h | ⟨_, _, h, _⟩)
      · cases h
        rfl
      · cases h
  · constructor
    · intro h
      exact .inr ⟨a, rows', rfl, h⟩
    · rintro (h | ⟨_, _, h, hf⟩)
      · cases h
      · cases h
        exact hf

/-- A computation that only gives a result. -/
theorem pure_ok_iff {a b : α} {rows rows' : RowCounter} :
    (pure a : Drawing α).run.run rows = (.ok b, rows') ↔ b = a ∧ rows' = rows := by
  constructor
  · intro h
    cases h
    exact ⟨rfl, rfl⟩
  · rintro ⟨rfl, rfl⟩
    rfl

/-- A fold that succeeds hands an invariant on from its start to its end. The invariant speaks of
the elements still to come, the result so far, and the counter. -/
theorem foldlM_induct {f : β → α → Drawing β} (motive : List α → β → RowCounter → Prop)
    (step : ∀ a rest b rows b' rows', motive (a :: rest) b rows →
      (f b a).run.run rows = (.ok b', rows') → motive rest b' rows')
    {xs : List α} {b c : β} {rows rows' : RowCounter} (h0 : motive xs b rows)
    (h : (xs.foldlM f b).run.run rows = (.ok c, rows')) : motive [] c rows' := by
  induction xs generalizing b rows with
  | nil =>
    cases h
    exact h0
  | cons a rest ih =>
    rw [List.foldlM_cons, bind_ok_iff] at h
    obtain ⟨b', rows1, ha, hrest⟩ := h
    exact ih (step a rest b rows b' rows1 h0 ha) hrest

/-- A fold whose every step succeeds under an invariant, and keeps it, succeeds. -/
theorem foldlM_total {f : β → α → Drawing β} (motive : List α → β → RowCounter → Prop)
    (step : ∀ a rest b rows, motive (a :: rest) b rows →
      ∃ b' rows', (f b a).run.run rows = (.ok b', rows') ∧ motive rest b' rows')
    {xs : List α} {b : β} {rows : RowCounter} (h0 : motive xs b rows) :
    ∃ c rows', (xs.foldlM f b).run.run rows = (.ok c, rows') ∧ motive [] c rows' := by
  induction xs generalizing b rows with
  | nil => exact ⟨b, rows, rfl, h0⟩
  | cons a rest ih =>
    obtain ⟨b', rows1, ha, h1⟩ := step a rest b rows h0
    obtain ⟨c, rows', hc, hend⟩ := ih h1
    refine ⟨c, rows', ?_, hend⟩
    rw [List.foldlM_cons, bind_ok_iff]
    exact ⟨b', rows1, ha, hc⟩

/-- A fold that fails does so at one of its elements. -/
theorem exists_of_foldlM_error {f : β → α → Drawing β} {xs : List α} {b : β}
    {rows rows' : RowCounter} {e : MigrationError}
    (h : (xs.foldlM f b).run.run rows = (.error e, rows')) :
    ∃ a ∈ xs, ∃ b rows, (f b a).run.run rows = (.error e, rows') := by
  induction xs generalizing b rows with
  | nil => cases h
  | cons a rest ih =>
    rw [List.foldlM_cons, bind_error_iff] at h
    rcases h with h | ⟨b', rows1, _, h⟩
    · exact ⟨a, List.mem_cons_self, b, rows, h⟩
    · obtain ⟨a', ha', h'⟩ := ih h
      exact ⟨a', List.mem_cons_of_mem a ha', h'⟩

end Drawing

end Strata
