import Strata.Proofs.Edits
import Strata.Proofs.Tables
import Strata.Registry

/-!
# Accepted histories

What is known of a registry that `Registry.build` gives. Every step is registered under its source
version (`Registry.stepFor?_source`) and leads from the schema at its source to the schema at its
target (`Registry.exists_accepts`), the current schema is the one at the current version
(`Registry.schemaAt?_current`), and what holds of the baseline and is kept by every step holds of
every schema of the history (`Registry.schemaAt?_induct`).
-/

namespace Strata

namespace Registry

/-- A step fits a schema and leads to another: the tables it clears exist, its edits are accepted,
and it transforms and inserts into entities that exist after the edits. -/
structure Accepts (live : Schema) (step : Step) (next : Schema) : Prop where
  /-- Cleared tables exist. -/
  clears : ∀ name ∈ step.clears, live.hasEntity name = true
  /-- The edits lead to the next schema. -/
  edits : Edit.applyAll step.edits live step.clears step.source = .ok next
  /-- There is at most one transform. -/
  single : step.transforms.length ≤ 1
  /-- The transformed entity exists. -/
  transform : ∀ name t, step.transform? = some (name, t) → next.hasEntity name = true
  /-- The inserted records are of entities that exist, and set defined fields only. -/
  inserts : ∀ p ∈ step.inserts, ∃ e, next.entity? p.1 = some e ∧
    ∀ name, p.2.has name = true → e.hasField name = true

theorem checkClears_eq_ok_iff {schema : Schema} {step : Step} :
    checkClears schema step = .ok () ↔ ∀ name ∈ step.clears, schema.hasEntity name = true := by
  unfold checkClears
  rw [forM_eq_ok_iff]
  refine forall₂_congr fun name _ => ?_
  cases schema.hasEntity name <;> simp

theorem checkTransforms_eq_ok_iff {schema : Schema} {step : Step} :
    checkTransforms schema step = .ok () ↔ step.transforms.length ≤ 1 ∧
      ∀ name t, step.transform? = some (name, t) → schema.hasEntity name = true := by
  unfold checkTransforms
  by_cases hlen : 1 < step.transforms.length
  · rw [if_pos hlen]
    simp [Nat.not_le.2 hlen]
  · rw [if_neg hlen]
    cases step.transform? with
    | none => simp [Nat.le_of_not_lt hlen]
    | some p =>
      obtain ⟨name, t⟩ := p
      cases hs : schema.hasEntity name <;> simp [hs, Nat.le_of_not_lt hlen]

theorem checkInserts_eq_ok_iff {schema : Schema} {step : Step} :
    checkInserts schema step = .ok () ↔ ∀ p ∈ step.inserts, ∃ e, schema.entity? p.1 = some e ∧
      ∀ name, p.2.has name = true → e.hasField name = true := by
  unfold checkInserts
  rw [forM_eq_ok_iff]
  refine forall₂_congr fun p _ => ?_
  obtain ⟨entity, r⟩ := p
  dsimp only
  cases schema.entity? entity with
  | none => simp
  | some e =>
    dsimp only
    rw [forM_eq_ok_iff]
    simp only [Option.some.injEq, exists_eq_left', Record.has, Std.ExtTreeMap.mem_keys,
      Std.ExtTreeMap.mem_iff_contains]
    refine forall₂_congr fun name _ => ?_
    cases e.hasField name <;> simp

/-- A replay succeeds exactly when the step fits. -/
theorem replay_eq_ok_iff {live next : Schema} {step : Step} :
    replay live step = .ok next ↔ Accepts live step next := by
  unfold replay
  rw [bind_eq_ok_iff]
  constructor
  · rintro ⟨⟨⟩, hclears, h⟩
    rw [bind_eq_ok_iff] at h
    obtain ⟨next', hedits, h⟩ := h
    rw [bind_eq_ok_iff] at h
    obtain ⟨⟨⟩, htransforms, h⟩ := h
    rw [bind_eq_ok_iff] at h
    obtain ⟨⟨⟩, hinserts, h⟩ := h
    cases h
    obtain ⟨hsingle, htransform⟩ := checkTransforms_eq_ok_iff.1 htransforms
    exact ⟨checkClears_eq_ok_iff.1 hclears, hedits, hsingle, htransform,
      checkInserts_eq_ok_iff.1 hinserts⟩
  · intro h
    refine ⟨(), checkClears_eq_ok_iff.2 h.clears, ?_⟩
    rw [h.edits]
    refine bind_eq_ok_iff.2 ⟨next, rfl, ?_⟩
    refine bind_eq_ok_iff.2 ⟨(), checkTransforms_eq_ok_iff.2 ⟨h.single, h.transform⟩, ?_⟩
    exact bind_eq_ok_iff.2 ⟨(), checkInserts_eq_ok_iff.2 h.inserts, rfl⟩

/-- An accepted step keeps the version of the schema. -/
theorem Accepts.version {live next : Schema} {step : Step} (h : Accepts live step next) :
    next.version = live.version :=
  Edit.applyAll_version h.edits

/-- An indexed step is one of the list, and stands under its source version. -/
theorem indexSteps_eq_ok {steps : List Step} {index : Std.ExtTreeMap Nat Step}
    (h : indexSteps steps = .ok index) {version : Nat} {step : Step}
    (hstep : index[version]? = some step) : step.source = version ∧ step ∈ steps := by
  let motive (rest : List Step) (index : Std.ExtTreeMap Nat Step) : Prop :=
    (∀ step ∈ rest, step ∈ steps) ∧ ∀ (version : Nat) (step : Step),
      index[version]? = some step → step.source = version ∧ step ∈ steps
  refine (foldlM_induct motive ?_ ⟨fun _ hmem => hmem, fun v s hs => ?_⟩ h).2 version step hstep
  · rintro step rest index index' ⟨hrest, hindex⟩ hadd
    split at hadd
    · cases hadd
    cases hadd
    refine ⟨fun s hs => hrest s (List.mem_cons_of_mem step hs), fun v s hs => ?_⟩
    rw [Std.ExtTreeMap.getElem?_insert] at hs
    split at hs
    · next heq =>
      cases hs
      exact ⟨Std.LawfulEqCmp.compare_eq_iff_eq.1 heq, hrest _ List.mem_cons_self⟩
    · exact hindex v s hs
  · simp at hs

/-- Every step of an accepted list is indexed. -/
theorem getElem?_indexSteps {steps : List Step} {index : Std.ExtTreeMap Nat Step}
    (h : indexSteps steps = .ok index) {step : Step} (hmem : step ∈ steps) :
    index[step.source]? = some step := by
  -- Every step is still to come or indexed.
  let motive (rest : List Step) (index : Std.ExtTreeMap Nat Step) : Prop :=
    ∀ step ∈ steps, step ∈ rest ∨ index[step.source]? = some step
  have hinit : motive steps ∅ := fun step hmem => .inl hmem
  have hnext : ∀ step rest (index index' : Std.ExtTreeMap Nat Step), motive (step :: rest) index →
      (if index.contains step.source then
        (.error (.duplicateVersion step.source) : Except MigrationError (Std.ExtTreeMap Nat Step))
      else .ok (index.insert step.source step)) = .ok index' → motive rest index' := by
    intro first rest index index' hindex hadd other hother
    split at hadd
    · cases hadd
    next hfree =>
    cases hadd
    rw [Std.ExtTreeMap.getElem?_insert]
    rcases hindex other hother with hmem | hfound
    · rcases List.mem_cons.1 hmem with rfl | hmem
      · exact .inr (if_pos Std.ReflCmp.compare_self)
      · exact .inl hmem
    · refine .inr ?_
      -- The place of an indexed step is taken, so the new step has another source.
      rw [if_neg]
      · exact hfound
      · rw [Std.LawfulEqCmp.compare_eq_iff_eq]
        intro heq
        rw [heq, contains_eq_isSome, hfound] at hfree
        exact hfree rfl
  rcases foldlM_induct motive hnext hinit h step hmem with hmem | hfound
  · cases hmem
  · exact hfound

/-! ## The replay -/

/-- What is known of the schemas once some steps have been replayed over a baseline, the last of
them leading to `last`. -/
structure Replayed (holds : Schema → Prop) (baseline : Schema) (done : List Step)
    (schemas : Std.ExtTreeMap Nat Schema) (last : Schema) : Prop where
  /-- The baseline is kept under its version. -/
  first_mem : schemas[baseline.version]? = some baseline
  /-- The last schema is kept under its version. -/
  last_mem : schemas[last.version]? = some last
  /-- Every schema is kept under its own version, which is not beyond the last, and has what is
  handed on by every step. -/
  each : ∀ (version : Nat) (s : Schema), schemas[version]? = some s →
    version ≤ last.version ∧ s.version = version ∧ holds s
  /-- Every step leads from the schema at its source to the one at its target. -/
  accepted : ∀ step ∈ done, ∃ live next, schemas[step.source]? = some live ∧
    Accepts live step next ∧ schemas[step.target]? = some (atVersion next step.target) ∧
    step.target ≤ last.version

variable {holds : Schema → Prop}

/-- Nothing replayed yet. -/
theorem Replayed.start {baseline : Schema} (h : holds baseline) :
    Replayed holds baseline [] ((∅ : Std.ExtTreeMap Nat Schema).insert baseline.version baseline)
      baseline := by
  refine ⟨Std.ExtTreeMap.getElem?_insert_self, Std.ExtTreeMap.getElem?_insert_self,
    fun version s hs => ?_, fun _ hmem => ?_⟩
  · rw [Std.ExtTreeMap.getElem?_insert] at hs
    split at hs
    · next heq =>
      cases hs
      have := Std.LawfulEqCmp.compare_eq_iff_eq.1 heq
      subst this
      exact ⟨Nat.le_refl _, rfl, h⟩
    · simp at hs
  · cases hmem

/-- The schemas once a step has been replayed over the last of them. -/
def extended (schemas : Std.ExtTreeMap Nat Schema) (last next : Schema) (step : Step) :
    Std.ExtTreeMap Nat Schema :=
  (schemas.insert step.source (atVersion last step.source)).insert step.target
    (atVersion next step.target)

section Extend

variable {schemas : Std.ExtTreeMap Nat Schema} {last next : Schema} {step : Step}

/-- The schemas that are added are those at the source and the target of the step. -/
theorem getElem?_extended (version : Nat) : (extended schemas last next step)[version]? =
    if step.target = version then some (atVersion next step.target)
    else if step.source = version then some (atVersion last step.source)
    else schemas[version]? := by
  unfold extended
  simp only [Std.ExtTreeMap.getElem?_insert, Std.LawfulEqCmp.compare_eq_iff_eq]

/-- A step that is replayed does not predate the last schema and is accepted over it. -/
theorem extend_eq_ok {state : Std.ExtTreeMap Nat Schema × Schema}
    (h : Registry.extend (schemas, last) step = .ok state) :
    last.version ≤ step.source ∧ ∃ next, Accepts (atVersion last step.source) step next ∧
      state = (extended schemas last next step, atVersion next step.target) := by
  unfold Registry.extend at h
  dsimp only at h
  split at h
  · cases h
  next hle =>
  rw [bind_eq_ok_iff] at h
  obtain ⟨next, hreplay, hstate⟩ := h
  cases hstate
  exact ⟨Nat.le_of_not_lt hle, next, replay_eq_ok_iff.1 hreplay, rfl⟩

/-- What was kept before stays: at the source of the step the last schema is kept again. -/
theorem Replayed.kept {baseline : Schema} {done : List Step}
    (h : Replayed holds baseline done schemas last) (hle : last.version ≤ step.source)
    {version : Nat} {s : Schema} (hs : schemas[version]? = some s) :
    (extended schemas last next step)[version]? = some s := by
  obtain ⟨hversion, -, -⟩ := h.each version s hs
  have hne : step.target ≠ version := by
    unfold Step.target
    omega
  rw [getElem?_extended, if_neg hne]
  split
  · next hsource =>
    have hlast : last.version = version := by omega
    have hmem := h.last_mem
    rw [hlast, hs] at hmem
    cases hmem
    rw [hsource, ← hlast]
    rfl
  · exact hs

/-- One more step replayed. -/
theorem Replayed.extend {baseline : Schema} {done : List Step}
    (h : Replayed holds baseline done schemas last) {state : Std.ExtTreeMap Nat Schema × Schema}
    (hextend : Registry.extend (schemas, last) step = .ok state)
    (hat : ∀ s version, holds s → holds (atVersion s version))
    (hstep : ∀ live next, holds live → Accepts live step next → holds next) :
    Replayed holds baseline (done ++ [step]) state.1 state.2 := by
  obtain ⟨hle, next, haccepts, rfl⟩ := extend_eq_ok hextend
  have hlive : holds (atVersion last step.source) := hat last _ (h.each _ _ h.last_mem).2.2
  have hnext : holds (atVersion next step.target) := hat next _ (hstep _ _ hlive haccepts)
  have htarget : (extended schemas last next step)[step.target]? =
      some (atVersion next step.target) := by
    rw [getElem?_extended, if_pos rfl]
  have hsource : (extended schemas last next step)[step.source]? =
      some (atVersion last step.source) := by
    have hne : step.target ≠ step.source := Nat.succ_ne_self step.source
    rw [getElem?_extended, if_neg hne, if_pos rfl]
  refine ⟨h.kept hle h.first_mem, htarget, fun version s hs => ?_, fun step' hmem => ?_⟩
  -- A schema is filed under the target, under the source, or was there before.
  · change version ≤ step.target ∧ _
    rw [getElem?_extended] at hs
    split at hs
    · next heq =>
      cases hs
      exact ⟨Nat.le_of_eq heq.symm, heq, hnext⟩
    split at hs
    · next heq =>
      cases hs
      exact ⟨heq ▸ Nat.le_succ step.source, heq, hlive⟩
    · obtain ⟨hversion, hs⟩ := h.each version s hs
      exact ⟨Nat.le_succ_of_le (Nat.le_trans hversion hle), hs⟩
  · rcases List.mem_append.1 hmem with hmem | hmem
    · obtain ⟨live, next', hlive', haccepts', hnext', hle'⟩ := h.accepted step' hmem
      exact ⟨live, next', h.kept hle hlive', haccepts', h.kept hle hnext',
        Nat.le_succ_of_le (Nat.le_trans hle' hle)⟩
    · cases List.mem_singleton.1 hmem
      exact ⟨_, next, hsource, haccepts, htarget, Nat.le_refl _⟩

end Extend

variable {baseline : Schema} {steps : List Step} {registry : Registry}

/-- What holds of the baseline alone, and is handed on whenever one more step is replayed, holds once
all the steps have been. `motive` speaks of the steps replayed so far, the schemas up to them, and
the last of these. -/
theorem build_induct (motive : List Step → Std.ExtTreeMap Nat Schema × Schema → Prop)
    (h : build baseline steps = .ok registry)
    (start : motive [] ((∅ : Std.ExtTreeMap Nat Schema).insert baseline.version baseline, baseline))
    (extend : ∀ done step state state', step ∈ steps → motive done state →
      Registry.extend state step = .ok state' → motive (done ++ [step]) state') :
    motive registry.steps.values (registry.schemas, registry.current) := by
  unfold build at h
  rw [bind_eq_ok_iff] at h
  obtain ⟨index, hindex, h⟩ := h
  rw [bind_eq_ok_iff] at h
  obtain ⟨⟨schemas, current⟩, hfold, h⟩ := h
  cases h
  have hmem : ∀ step ∈ index.values, step ∈ steps := by
    intro step hstep
    obtain ⟨version, hversion⟩ := mem_values_iff.1 hstep
    exact (indexSteps_eq_ok hindex hversion).2
  -- The fold has replayed the steps that are no longer ahead of it.
  let ahead (rest : List Step) (state : Std.ExtTreeMap Nat Schema × Schema) : Prop :=
    ∃ done, index.values = done ++ rest ∧ motive done state
  have hinit : ahead index.values
      ((∅ : Std.ExtTreeMap Nat Schema).insert baseline.version baseline, baseline) :=
    ⟨[], rfl, start⟩
  have hnext : ∀ step rest state state', ahead (step :: rest) state →
      Registry.extend state step = .ok state' → ahead rest state' := by
    rintro step rest state state' ⟨done, hdone, hmotive⟩ hextend
    have hstep : step ∈ steps := hmem step (by rw [hdone]; simp)
    exact ⟨done ++ [step], by simp [hdone], extend done step state state' hstep hmotive hextend⟩
  obtain ⟨done, hdone, hmotive⟩ := foldlM_induct ahead hnext hinit hfold
  rw [List.append_nil] at hdone
  rw [hdone]
  exact hmotive

/-- What is known of an accepted history. -/
theorem build_replayed (h : build baseline steps = .ok registry) (hbase : holds baseline)
    (hat : ∀ s version, holds s → holds (atVersion s version))
    (hstep : ∀ step ∈ steps, ∀ live next, holds live → Accepts live step next → holds next) :
    Replayed holds baseline registry.steps.values registry.schemas registry.current := by
  refine build_induct (fun done state => Replayed holds baseline done state.1 state.2) h
    (Replayed.start hbase) ?_
  intro done step state state' hmem hreplayed hextend
  exact hreplayed.extend hextend hat (hstep step hmem)

/-- What holds of the baseline, does not depend on the version and is handed on by every step holds
of every schema of the history. -/
theorem schemaAt?_induct (holds : Schema → Prop) (h : build baseline steps = .ok registry)
    (hbase : holds baseline)
    (hat : ∀ s version, holds s → holds (atVersion s version))
    (hstep : ∀ step ∈ steps, ∀ live next, holds live → Accepts live step next → holds next)
    {version : Nat} {schema : Schema} (hschema : registry.schemaAt? version = some schema) :
    holds schema :=
  ((build_replayed h hbase hat hstep).each version schema hschema).2.2

/-- The schemas of a history without regard to what they hold. -/
theorem build_replayed_true (h : build baseline steps = .ok registry) :
    Replayed (fun _ => True) baseline registry.steps.values registry.schemas registry.current :=
  build_replayed h trivial (fun _ _ _ => trivial) fun _ _ _ _ _ _ => trivial

/-- A schema of the history carries the version that it is found at. -/
theorem version_of_schemaAt? (h : build baseline steps = .ok registry) {version : Nat}
    {schema : Schema} (hschema : registry.schemaAt? version = some schema) :
    schema.version = version :=
  ((build_replayed_true h).each version schema hschema).2.1

/-- The baseline is the schema at its version. -/
theorem schemaAt?_baseline (h : build baseline steps = .ok registry) :
    registry.schemaAt? baseline.version = some baseline :=
  (build_replayed_true h).first_mem

/-- The current schema is the one at the current version. -/
theorem schemaAt?_current (h : build baseline steps = .ok registry) :
    registry.schemaAt? registry.currentVersion = some registry.current :=
  (build_replayed_true h).last_mem

/-- A registered step stands under its source version and is one of the history. -/
theorem stepFor?_eq_some (h : build baseline steps = .ok registry) {version : Nat} {step : Step}
    (hstep : registry.stepFor? version = some step) : step.source = version ∧ step ∈ steps := by
  unfold build at h
  rw [bind_eq_ok_iff] at h
  obtain ⟨index, hindex, h⟩ := h
  rw [bind_eq_ok_iff] at h
  obtain ⟨_, _, h⟩ := h
  cases h
  exact indexSteps_eq_ok hindex hstep

/-- Every step of the history is registered under its source version. -/
theorem stepFor?_source (h : build baseline steps = .ok registry) {step : Step}
    (hmem : step ∈ steps) : registry.stepFor? step.source = some step := by
  unfold build at h
  rw [bind_eq_ok_iff] at h
  obtain ⟨index, hindex, h⟩ := h
  rw [bind_eq_ok_iff] at h
  obtain ⟨_, _, h⟩ := h
  cases h
  exact getElem?_indexSteps hindex hmem

/-- A registered step leads from the schema at its source to the schema at its target, which is not
beyond the current one. -/
theorem exists_accepts (h : build baseline steps = .ok registry) {version : Nat} {step : Step}
    (hstep : registry.stepFor? version = some step) :
    ∃ live next, registry.schemaAt? version = some live ∧ Accepts live step next ∧
      registry.schemaAt? (version + 1) = some (atVersion next (version + 1)) ∧
      version + 1 ≤ registry.currentVersion := by
  obtain ⟨rfl, -⟩ := stepFor?_eq_some h hstep
  exact (build_replayed_true h).accepted step (mem_values_iff.2 ⟨_, hstep⟩)

/-- Changing the version changes no entity. -/
@[simp] theorem entity?_atVersion (s : Schema) (version : Nat) (name : String) :
    (atVersion s version).entity? name = s.entity? name := rfl

/-- Every schema of a history whose baseline has distinct field names has them too. -/
theorem distinctFields_of_schemaAt? (h : build baseline steps = .ok registry)
    (hbase : baseline.DistinctFields) {version : Nat} {schema : Schema}
    (hschema : registry.schemaAt? version = some schema) : schema.DistinctFields :=
  schemaAt?_induct Schema.DistinctFields h hbase (fun _ _ hs => hs)
    (fun _ _ _ _ hs haccepts => Edit.applyAll_distinctFields haccepts.edits hs) hschema

/-- A predicate of names that holds of the entities of the baseline and of the created ones holds of
every entity of a history. -/
theorem names_of_schemaAt? (h : build baseline steps = .ok registry) (allowed : String → Prop)
    (hbase : ∀ name, baseline.hasEntity name = true → allowed name)
    (hcreated : ∀ step ∈ steps, ∀ e, Edit.createTable e ∈ step.edits → allowed e.name)
    {version : Nat} {schema : Schema} (hschema : registry.schemaAt? version = some schema) :
    ∀ name, schema.hasEntity name = true → allowed name :=
  schemaAt?_induct (fun s => ∀ name, s.hasEntity name = true → allowed name) h hbase
    (fun _ _ hs => hs)
    (fun step hstep _ _ hs haccepts =>
      Edit.applyAll_names haccepts.edits allowed hs (hcreated step hstep)) hschema

end Registry

end Strata
