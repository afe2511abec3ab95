import Strata.Proofs.Consistency
import Mathlib.Data.List.Induction

/-!
# The versions of a history

The schema at each version of an accepted history is the baseline, or one that a step leads to, or
one that is carried over a gap to the step behind it (`Registry.Origin`,
`Registry.schemaAt?_origin`). What is known of the versions follows from that: which of them the
history passes (`Registry.isSome_schemaAt?_iff`) and which of them is the last
(`Registry.exists_target_eq_currentVersion`). The steps are indexed by the version that they start
from, so the order in which they are listed plays no part (`Registry.build_perm`).
`Registry.Timeline` puts all this together.
-/

namespace Strata

namespace Registry

/-- Where the schema at a version comes from, once some steps have been replayed. -/
inductive Origin (baseline : Schema) (done : List Step) (schemas : Std.ExtTreeMap Nat Schema) :
    Nat → Schema → Prop
  /-- It is the baseline. -/
  | baseline : Origin baseline done schemas baseline.version baseline
  /-- A step leads to it from the schema at its source. -/
  | step {step : Step} {live next : Schema} (mem : step ∈ done)
      (source : schemas[step.source]? = some live) (accepts : Accepts live step next) :
      Origin baseline done schemas step.target (atVersion next step.target)
  /-- It is the schema of an earlier version, carried over the gap in front of a step. -/
  | gap {step : Step} {earlier : Nat} {s : Schema} (mem : step ∈ done)
      (lt : earlier < step.source) (found : schemas[earlier]? = some s)
      (between : ∀ version, earlier < version → version < step.source → schemas[version]? = none) :
      Origin baseline done schemas step.source (atVersion s step.source)

section Replay

variable {baseline last next s : Schema} {done : List Step}
  {schemas : Std.ExtTreeMap Nat Schema} {step : Step} {version : Nat}

/-- A version before the source of a step is as defined after the step as it was. -/
theorem getElem?_extended_of_lt (hlt : version < step.source) :
    (extended schemas last next step)[version]? = schemas[version]? := by
  have htarget : step.target ≠ version := by
    unfold Step.target
    omega
  have hsource : step.source ≠ version := by omega
  rw [getElem?_extended, if_neg htarget, if_neg hsource]

/-- A schema comes from where it came from when one more step has been replayed. -/
theorem Origin.extend (h : Origin baseline done schemas version s)
    (hreplayed : Replayed (fun _ => True) baseline done schemas last)
    (hle : last.version ≤ step.source) :
    Origin baseline (done ++ [step]) (extended schemas last next step) version s := by
  cases h with
  | baseline => exact .baseline
  | step mem source accepts =>
    exact .step (List.mem_append_left _ mem) (hreplayed.kept hle source) accepts
  | @gap step' earlier s mem lt found between =>
    refine .gap (List.mem_append_left _ mem) lt (hreplayed.kept hle found) ?_
    -- The versions of the gap lie before the last schema, so before the new step.
    intro version hlo hhi
    obtain ⟨_, _, -, -, -, htarget⟩ := hreplayed.accepted step' mem
    have hsource : step'.source < last.version := htarget
    rw [getElem?_extended_of_lt (by omega)]
    exact between version hlo hhi

/-- The schema that a step is replayed over is the last one, or that one carried over a gap. -/
theorem origin_source (hreplayed : Replayed (fun _ => True) baseline done schemas last)
    (horigin : Origin baseline done schemas last.version last)
    (hle : last.version ≤ step.source) :
    Origin baseline (done ++ [step]) (extended schemas last next step) step.source
      (atVersion last step.source) := by
  rcases Nat.eq_or_lt_of_le hle with heq | hlt
  · have hsame : atVersion last step.source = last := by rw [← heq]; rfl
    rw [hsame, ← heq]
    exact horigin.extend hreplayed hle
  · refine .gap (by simp) hlt (hreplayed.kept hle hreplayed.last_mem) ?_
    intro version hlo hhi
    rw [getElem?_extended_of_lt hhi]
    -- Nothing has been replayed beyond the last schema.
    cases hs : schemas[version]? with
    | none => rfl
    | some s =>
      have hbound := (hreplayed.each version s hs).1
      omega

/-- Every schema after one more step has an origin if every schema before has one. -/
theorem origin_extended (hreplayed : Replayed (fun _ => True) baseline done schemas last)
    (horigin : ∀ (version : Nat) (s : Schema), schemas[version]? = some s →
      Origin baseline done schemas version s)
    (hle : last.version ≤ step.source) (haccepts : Accepts (atVersion last step.source) step next)
    (hs : (extended schemas last next step)[version]? = some s) :
    Origin baseline (done ++ [step]) (extended schemas last next step) version s := by
  have hsource : (extended schemas last next step)[step.source]? =
      some (atVersion last step.source) := by
    have hne : step.target ≠ step.source := Nat.succ_ne_self step.source
    rw [getElem?_extended, if_neg hne, if_pos rfl]
  rw [getElem?_extended] at hs
  split at hs
  · next htarget =>
    cases hs
    subst htarget
    exact .step (by simp) hsource haccepts
  split at hs
  · next heq =>
    cases hs
    subst heq
    exact origin_source hreplayed (horigin _ _ hreplayed.last_mem) hle
  · exact (horigin version s hs).extend hreplayed hle

end Replay

variable {baseline : Schema} {steps : List Step} {registry : Registry} {version : Nat}
  {schema : Schema} {step : Step}

/-- Every schema of an accepted history has an origin. -/
theorem schemaAt?_origin (h : build baseline steps = .ok registry)
    (hschema : registry.schemaAt? version = some schema) :
    Origin baseline registry.steps.values registry.schemas version schema := by
  let traced (done : List Step) (state : Std.ExtTreeMap Nat Schema × Schema) : Prop :=
    Replayed (fun _ => True) baseline done state.1 state.2 ∧
      ∀ (version : Nat) (s : Schema), state.1[version]? = some s →
        Origin baseline done state.1 version s
  have hstart : traced [] ((∅ : Std.ExtTreeMap Nat Schema).insert baseline.version baseline,
      baseline) := by
    refine ⟨Replayed.start trivial, fun version s hs => ?_⟩
    rw [Std.ExtTreeMap.getElem?_insert] at hs
    split at hs
    · next heq =>
      cases hs
      obtain rfl : baseline.version = version := Std.LawfulEqCmp.compare_eq_iff_eq.1 heq
      exact .baseline
    · simp at hs
  refine (build_induct traced h hstart ?_).2 version schema hschema
  rintro done step ⟨schemas, last⟩ state' - ⟨hreplayed, horigin⟩ hextend
  have hreplayed' := hreplayed.extend hextend (fun _ _ _ => trivial) fun _ _ _ _ => trivial
  obtain ⟨hle, next, haccepts, rfl⟩ := extend_eq_ok hextend
  exact ⟨hreplayed', fun version s hs => origin_extended hreplayed horigin hle haccepts hs⟩

/-- The steps of a registry are those of its history. -/
theorem mem_values_steps_iff (h : build baseline steps = .ok registry) :
    step ∈ registry.steps.values ↔ step ∈ steps := by
  rw [mem_values_iff]
  constructor
  · rintro ⟨version, hstep⟩
    exact (stepFor?_eq_some h hstep).2
  · intro hmem
    exact ⟨step.source, stepFor?_source h hmem⟩

/-- The step registered for a version is the step of the history that starts from it. -/
theorem stepFor?_eq_some_iff (h : build baseline steps = .ok registry) :
    registry.stepFor? version = some step ↔ step ∈ steps ∧ step.source = version := by
  constructor
  · intro hstep
    exact (stepFor?_eq_some h hstep).symm
  · rintro ⟨hmem, rfl⟩
    exact stepFor?_source h hmem

/-- Every step of an accepted history leads from the schema at its source to the one at its target,
which is not beyond the current one. -/
theorem exists_accepts_of_mem (h : build baseline steps = .ok registry) (hmem : step ∈ steps) :
    ∃ live next, registry.schemaAt? step.source = some live ∧ Accepts live step next ∧
      registry.schemaAt? step.target = some (atVersion next step.target) ∧
      step.target ≤ registry.currentVersion :=
  exists_accepts h (stepFor?_source h hmem)

/-- No version of a history comes before its baseline. -/
theorem baseline_le_of_schemaAt? (h : build baseline steps = .ok registry)
    (hschema : registry.schemaAt? version = some schema) : baseline.version ≤ version := by
  induction version using Nat.strongRecOn generalizing schema with
  | ind version ih =>
    cases schemaAt?_origin h hschema with
    | baseline => exact Nat.le_refl _
    | @step step live next _ source _ =>
      have hlt : step.source < step.target := Nat.lt_succ_self _
      have hle := ih step.source hlt source
      omega
    | @gap step earlier s _ lt found _ =>
      have hle := ih earlier lt found
      omega

/-- A history passes the version of its baseline, and the source and the target of each of its
steps, and no other version. -/
theorem isSome_schemaAt?_iff (h : build baseline steps = .ok registry) :
    (registry.schemaAt? version).isSome = true ↔
      version = baseline.version ∨
        ∃ step ∈ steps, version = step.source ∨ version = step.target := by
  constructor
  · intro hsome
    obtain ⟨schema, hschema⟩ := Option.isSome_iff_exists.1 hsome
    cases schemaAt?_origin h hschema with
    | baseline => exact .inl rfl
    | step mem => exact .inr ⟨_, (mem_values_steps_iff h).1 mem, .inr rfl⟩
    | gap mem => exact .inr ⟨_, (mem_values_steps_iff h).1 mem, .inl rfl⟩
  · rintro (rfl | ⟨step, hmem, hversion⟩)
    · rw [schemaAt?_baseline h]
      rfl
    · obtain ⟨live, next, hlive, -, hnext, -⟩ := exists_accepts_of_mem h hmem
      rcases hversion with rfl | rfl
      · rw [hlive]
        rfl
      · rw [hnext]
        rfl

/-- Behind a gap a step starts from the entities of the nearest earlier version. -/
theorem exists_nearest (h : build baseline steps = .ok registry) (hmem : step ∈ steps)
    (hfirst : step.source ≠ baseline.version) (hgap : ∀ other ∈ steps, other.target ≠ step.source) :
    ∃ earlier s live, earlier < step.source ∧
      (∀ between, earlier < between → between < step.source →
        registry.schemaAt? between = none) ∧
      registry.schemaAt? earlier = some s ∧ registry.schemaAt? step.source = some live ∧
      live.entities = s.entities := by
  obtain ⟨live, -, hlive, -⟩ := exists_accepts_of_mem h hmem
  have horigin := schemaAt?_origin h hlive
  generalize hversion : step.source = version at horigin hfirst hgap hlive ⊢
  cases horigin with
  | baseline => exact absurd rfl hfirst
  | step mem => exact absurd rfl (hgap _ ((mem_values_steps_iff h).1 mem))
  | gap _ lt found between => exact ⟨_, _, _, lt, between, found, hlive, rfl⟩

/-- The last step of a history leads to the current version. -/
theorem exists_target_eq_currentVersion (h : build baseline steps = .ok registry)
    (hsteps : steps ≠ []) : ∃ step ∈ steps, step.target = registry.currentVersion := by
  have horigin := schemaAt?_origin h (schemaAt?_current h)
  generalize hversion : registry.currentVersion = version at horigin
  generalize registry.current = current at horigin
  cases horigin with
  | baseline =>
    -- A step would lead from the baseline, or a later version, to one beyond the current one.
    obtain ⟨step, hmem⟩ := List.exists_mem_of_ne_nil steps hsteps
    obtain ⟨live, next, hlive, -, -, hle⟩ := exists_accepts_of_mem h hmem
    have hbaseline := baseline_le_of_schemaAt? h hlive
    have htarget : step.target = step.source + 1 := rfl
    omega
  | step mem => exact ⟨_, (mem_values_steps_iff h).1 mem, rfl⟩
  | @gap step _ _ mem =>
    obtain ⟨-, -, -, -, -, hle⟩ := exists_accepts_of_mem h ((mem_values_steps_iff h).1 mem)
    have htarget : step.target = step.source + 1 := rfl
    omega

/-- Without steps the baseline is current. -/
theorem currentVersion_of_nil (h : build baseline [] = .ok registry) :
    registry.currentVersion = baseline.version := by
  have hsome : (registry.schemaAt? registry.currentVersion).isSome = true := by
    rw [schemaAt?_current h]
    rfl
  rcases (isSome_schemaAt?_iff h).1 hsome with hversion | ⟨_, hmem, -⟩
  · exact hversion
  · cases hmem

/-! ## The order in which steps are listed -/

/-- What an index of steps holds under a version. -/
theorem getElem?_of_indexSteps {index : Std.ExtTreeMap Nat Step} (h : indexSteps steps = .ok index) :
    index[version]? = some step ↔ step.source = version ∧ step ∈ steps := by
  constructor
  · exact indexSteps_eq_ok h
  · rintro ⟨rfl, hmem⟩
    exact getElem?_indexSteps h hmem

/-- The versions of an index are the sources of its steps. -/
theorem contains_of_indexSteps {index : Std.ExtTreeMap Nat Step}
    (h : indexSteps steps = .ok index) :
    index.contains version = true ↔ version ∈ steps.map (·.source) := by
  rw [contains_eq_isSome, Option.isSome_iff_exists, List.mem_map]
  simp only [getElem?_of_indexSteps h]
  exact exists_congr fun step => and_comm

/-- The last step of a list is indexed after the others. -/
theorem indexSteps_concat (steps : List Step) (last : Step) :
    indexSteps (steps ++ [last]) = indexSteps steps >>= fun index =>
      if index.contains last.source then .error (.duplicateVersion last.source)
      else .ok (index.insert last.source last) := by
  unfold indexSteps
  rw [List.foldlM_append]
  simp only [List.foldlM_cons, List.foldlM_nil, bind_pure]

/-- A list of steps is indexed exactly when no two of them start from one version. -/
theorem exists_indexSteps_iff :
    (∃ index, indexSteps steps = .ok index) ↔ (steps.map (·.source)).Nodup := by
  induction steps using List.reverseRecOn with
  | nil => exact ⟨fun _ => List.nodup_nil, fun _ => ⟨∅, rfl⟩⟩
  | append_singleton rest last ih =>
    have hnodup : ((rest ++ [last]).map (·.source)).Nodup ↔
        (rest.map (·.source)).Nodup ∧ last.source ∉ rest.map (·.source) := by
      rw [List.map_append, List.map_singleton, List.nodup_append]
      simp
    rw [hnodup, indexSteps_concat]
    constructor
    · rintro ⟨index', h⟩
      rw [bind_eq_ok_iff] at h
      obtain ⟨index, hindex, hlast⟩ := h
      refine ⟨ih.1 ⟨index, hindex⟩, fun hmem => ?_⟩
      rw [if_pos ((contains_of_indexSteps hindex).2 hmem)] at hlast
      cases hlast
    · rintro ⟨hrest, hnew⟩
      obtain ⟨index, hindex⟩ := ih.2 hrest
      have hfree : ¬index.contains last.source = true :=
        fun hcontains => hnew ((contains_of_indexSteps hindex).1 hcontains)
      exact ⟨_, bind_eq_ok_iff.2 ⟨index, hindex, if_neg hfree⟩⟩

/-- A list of steps has the same index in every order. -/
theorem indexSteps_perm {steps' : List Step} (hperm : steps'.Perm steps)
    {index : Std.ExtTreeMap Nat Step} (h : indexSteps steps = .ok index) :
    indexSteps steps' = .ok index := by
  have hnodup : (steps'.map (·.source)).Nodup :=
    (hperm.map _).nodup_iff.2 (exists_indexSteps_iff.1 ⟨index, h⟩)
  obtain ⟨index', h'⟩ := exists_indexSteps_iff.2 hnodup
  have hsame : index' = index := by
    refine Std.ExtTreeMap.ext_getElem? fun version => Option.ext fun step => ?_
    rw [getElem?_of_indexSteps h', getElem?_of_indexSteps h, hperm.mem_iff]
  rw [h', hsame]

/-- An accepted history is accepted in every order, as the same registry. -/
theorem build_perm {steps' : List Step} (hperm : steps'.Perm steps)
    (h : build baseline steps = .ok registry) : build baseline steps' = .ok registry := by
  unfold build at h ⊢
  rw [bind_eq_ok_iff] at h ⊢
  obtain ⟨index, hindex, hreplay⟩ := h
  exact ⟨index, indexSteps_perm hperm hindex, hreplay⟩

/-! ## The whole of it -/

/-- A step between two versions that the history passes fails for want of a step only if its plan
does. -/
theorem plan_of_applyStep_missingStep {config : PassConfig} {journal : Journal} {s : Store}
    {live next : Schema} (hlive : registry.schemaAt? step.source = some live)
    (hnext : registry.schemaAt? step.target = some next)
    (h : (registry.applyStep config step journal s).1 = .error (.missingStep version)) :
    ∃ rows, (step.plan live next config s).run.run s.rows = (.error (.missingStep version), rows) := by
  unfold applyStep at h
  rw [hlive, hnext] at h
  dsimp only at h
  split at h
  · cases h
  split at h
  · unfold commitStep at h
    rcases hplan : (step.plan live next config s).run.run s.rows with ⟨e | plan, rows⟩
    · rw [hplan] at h
      cases h
      exact ⟨rows, rfl⟩
    · rw [hplan] at h
      cases h
  · cases h

/-- The versions that a registry passes, the schemas it has there, and the steps between them. -/
structure Timeline (baseline : Schema) (steps : List Step) (registry : Registry) : Prop where
  /-- The versions are that of the baseline and the sources and targets of the steps. -/
  defined : ∀ version, (registry.schemaAt? version).isSome = true ↔
    version = baseline.version ∨ ∃ step ∈ steps, version = step.source ∨ version = step.source + 1
  /-- The baseline is the schema at its version. -/
  first : registry.schemaAt? baseline.version = some baseline
  /-- Every schema carries the version that it is found at. -/
  version : ∀ version schema, registry.schemaAt? version = some schema → schema.version = version
  /-- Every step leads from the schema at its source to the one that its edits make of it. -/
  stepped : ∀ step ∈ steps, ∃ live next, registry.schemaAt? step.source = some live ∧
    Edit.applyAll step.edits live step.clears step.source = .ok next ∧
    registry.schemaAt? (step.source + 1) = some (atVersion next (step.source + 1))
  /-- Behind a gap a step starts from the entities of the nearest earlier version. -/
  carried : ∀ step ∈ steps, step.source ≠ baseline.version →
    (∀ other ∈ steps, other.source + 1 ≠ step.source) →
    ∃ earlier s live, earlier < step.source ∧
      (∀ between, earlier < between → between < step.source →
        registry.schemaAt? between = none) ∧
      registry.schemaAt? earlier = some s ∧ registry.schemaAt? step.source = some live ∧
      live.entities = s.entities
  /-- Without steps the baseline is current. -/
  current_of_nil : steps = [] → registry.currentVersion = baseline.version
  /-- The current version is the greatest target. -/
  current_of_ne_nil : steps ≠ [] → ∃ step ∈ steps, registry.currentVersion = step.source + 1
  /-- No step leads beyond the current version. -/
  le_current : ∀ step ∈ steps, step.source + 1 ≤ registry.currentVersion
  /-- The registered steps are those of the list, each under its source. -/
  registered : ∀ version step, registry.stepFor? version = some step ↔
    step ∈ steps ∧ step.source = version
  /-- A registered step finds the schemas at both of its versions. So wherever it is applied, it
  fails for want of a step only if that is the error with which its own plan fails. -/
  found : ∀ version step, registry.stepFor? version = some step →
    ∃ live next, registry.schemaAt? step.source = some live ∧
      registry.schemaAt? step.target = some next ∧
      ∀ config journal s missing,
        (registry.applyStep config step journal s).1 = .error (.missingStep missing) →
        ∃ rows, (step.plan live next config s).run.run s.rows =
          (.error (.missingStep missing), rows)

/-- **The versions of a history.** A list of steps makes a registry exactly when each of its
permutations makes that registry, and the registry then has the timeline of the steps. -/
theorem timeline_of_build (baseline : Schema) (steps : List Step) :
    (∀ registry, build baseline steps = .ok registry ↔
      ∀ steps' : List Step, steps'.Perm steps → build baseline steps' = .ok registry) ∧
    ∀ registry, build baseline steps = .ok registry → Timeline baseline steps registry := by
  constructor
  · intro registry
    constructor
    · intro h steps' hperm
      exact build_perm hperm h
    · intro h
      exact h steps (List.Perm.refl steps)
  intro registry h
  refine
    { defined := fun _ => isSome_schemaAt?_iff h
      first := schemaAt?_baseline h
      version := fun _ _ hschema => version_of_schemaAt? h hschema
      stepped := fun step hmem => ?_
      carried := fun step hmem => exists_nearest h hmem
      current_of_nil := ?_
      current_of_ne_nil := fun hsteps => ?_
      le_current := fun step hmem => ?_
      registered := fun _ _ => stepFor?_eq_some_iff h
      found := fun version step hstep => ?_ }
  · obtain ⟨live, next, hlive, haccepts, hnext, -⟩ := exists_accepts_of_mem h hmem
    exact ⟨live, next, hlive, haccepts.edits, hnext⟩
  · rintro rfl
    exact currentVersion_of_nil h
  · obtain ⟨step, hmem, htarget⟩ := exists_target_eq_currentVersion h hsteps
    exact ⟨step, hmem, htarget.symm⟩
  · obtain ⟨-, -, -, -, -, hle⟩ := exists_accepts_of_mem h hmem
    exact hle
  · obtain ⟨live, next, hlive, -, hnext, -⟩ :=
      exists_accepts_of_mem h (stepFor?_eq_some h hstep).2
    exact ⟨live, _, hlive, hnext, fun _ _ _ _ hmissing =>
      plan_of_applyStep_missingStep hlive hnext hmissing⟩

/-- A history that leaves out a version and is listed backwards: the third step gives people an age,
and the first creates a table of notes. -/
def backwards : List Step :=
  [(Step.ofSource 2 "ages").addField "Person" (.optional "age" .int),
    (Step.ofSource 0 "notes").createTable ⟨"Note", []⟩]

/-- A history that is listed backwards makes the registry that it makes in order, which carries a
schema over the version left out. -/
theorem timeline_of_build_backwards :
    ∃ registry, build people backwards = .ok registry ∧
      build people backwards.reverse = .ok registry ∧ Timeline people backwards registry ∧
      registry.currentVersion = 3 ∧ registry.stepFor? 1 = none ∧
      ∃ s live, registry.schemaAt? 1 = some s ∧ registry.schemaAt? 2 = some live ∧
        live.entities = s.entities := by
  obtain ⟨registry, hbuild, hcurrent, hmissing⟩ :
      ∃ registry, build people backwards = .ok registry ∧ registry.currentVersion = 3 ∧
        registry.stepFor? 1 = none := ⟨_, rfl, rfl, rfl⟩
  obtain ⟨hperm, htimeline⟩ := timeline_of_build people backwards
  have hreverse := (hperm registry).1 hbuild backwards.reverse (List.reverse_perm backwards)
  have htime := htimeline registry hbuild
  have hgap : ∀ other ∈ backwards, other.source + 1 ≠ 2 := by decide
  obtain ⟨earlier, s, live, hlt, hbetween, hs, hlive, hsame⟩ :=
    htime.carried _ List.mem_cons_self (by decide) hgap
  -- Version 1 is the target of the first step, so nothing earlier is nearest.
  have hone : (registry.schemaAt? 1).isSome = true := (htime.defined 1).2 (.inr (by decide))
  have hearlier : earlier = 1 := by
    change earlier < 2 at hlt
    by_contra hne
    rw [hbetween 1 (by omega) (by decide)] at hone
    cases hone
  subst hearlier
  exact ⟨registry, hbuild, hreverse, htime, hcurrent, hmissing, s, live, hs, hlive, hsame⟩

end Registry

end Strata
