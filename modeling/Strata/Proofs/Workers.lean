import Strata.Proofs.Passes
import Strata.Run.Basic

/-!
# Workers do not show

A pass over many records is divided among workers: the records are cut into contiguous chunks
(`Division`), each worker applies the transform to a chunk, and the outputs are put together again.
Whatever the number of workers and the threshold, this is what one worker does (`PassSpec`): the
outputs come in the order of the records, of several failures the first counts, and the fallbacks
add up to the same number. The arithmetic of the division is defined for every configuration
(`runPass?_eq`). A run reaches its configuration of passes only through `runPass`, so runs under
different configurations are equal (`Registry.run_withPass`).
-/

namespace Strata

/-! ## The arithmetic of a division -/

/-- The nearest number between two bounds. There is none when the bounds cross. -/
def clamp? (n low high : Nat) : Option Nat :=
  if low ≤ high then some (max low (min n high)) else none

/-- The quotient of two numbers rounded up. There is none by zero. -/
def divCeil? (n d : Nat) : Option Nat :=
  if d = 0 then none else some (n / d + if n % d = 0 then 0 else 1)

/-- Rounding a quotient up is adding all but one of the divisor first. -/
theorem divCeil?_of_pos {n d : Nat} (hd : 0 < d) : divCeil? n d = some ((n + d - 1) / d) := by
  unfold divCeil?
  rw [if_neg (Nat.ne_of_gt hd)]
  congr 1
  have hn : d * (n / d) + n % d = n := Nat.div_add_mod n d
  have hlt : n % d < d := Nat.mod_lt n hd
  by_cases hrem : n % d = 0
  · rw [if_pos hrem]
    have hsum : n + d - 1 = (d - 1) + d * (n / d) := by omega
    have hzero : (d - 1) / d = 0 := Nat.div_eq_of_lt (by omega)
    rw [hsum, Nat.add_mul_div_left _ _ hd, hzero, Nat.zero_add, Nat.add_zero]
  · rw [if_neg hrem]
    have hsum : n + d - 1 = (n % d + d - 1) + d * (n / d) := by omega
    have hone : (n % d + d - 1) / d = 1 := Nat.div_eq_of_lt_le (by omega) (by omega)
    rw [hsum, Nat.add_mul_div_left _ _ hd, hone, Nat.add_comm]

/-- The rounded-up quotient times the divisor is at least the dividend. -/
theorem le_mul_divCeil (n : Nat) {d : Nat} (hd : 0 < d) : n ≤ d * ((n + d - 1) / d) := by
  have hsum : d * ((n + d - 1) / d) + (n + d - 1) % d = n + d - 1 := Nat.div_add_mod _ d
  have hlt : (n + d - 1) % d < d := Nat.mod_lt _ hd
  omega

namespace PassConfig

/-- The number of workers, computed by `clamp?`. -/
def workersFor? (c : PassConfig) (records : Nat) : Option Nat :=
  if records ≤ c.parallelThreshold then some 1
  else clamp? (c.workers?.getD machineWorkers) 1 records

/-- A pass above the threshold has a record, so the bounds for its workers do not cross. -/
theorem workersFor?_eq (c : PassConfig) (records : Nat) :
    c.workersFor? records = some (c.workersFor records) := by
  unfold workersFor? workersFor
  by_cases hsmall : records ≤ c.parallelThreshold
  · rw [if_pos hsmall, if_pos hsmall]
  · have hpos : 1 ≤ records := by omega
    rw [if_neg hsmall, if_neg hsmall]
    unfold clamp?
    rw [if_pos hpos]

/-- There are no more workers than records, unless there is one worker only. -/
theorem workersFor_le {c : PassConfig} {records : Nat} (h : 1 < c.workersFor records) :
    c.workersFor records ≤ records := by
  unfold workersFor at h ⊢
  by_cases hsmall : records ≤ c.parallelThreshold
  · rw [if_pos hsmall] at h
    omega
  · rw [if_neg hsmall]
    omega

end PassConfig

namespace Transform

section Chunks

variable {α : Type} {size most : Nat} {xs : List α} {parts : List (List α)}

/-! ## Cutting into chunks -/

/-- How a list is cut: a chunk is taken off as long as there is more than one chunk left, and what
remains is the last chunk. -/
inductive Cut (size : Nat) : List α → List (List α) → Prop
  /-- What remains is the last chunk. -/
  | last {xs : List α} (short : xs.length ≤ size) : Cut size xs [xs]
  /-- There is more than a chunk left, of which one is taken off. -/
  | next {xs : List α} {parts : List (List α)} (long : size < xs.length)
      (more : Cut size (xs.drop size) parts) : Cut size xs (xs.take size :: parts)

/-- The cutting comes to an end: there are no more cuts than elements. -/
theorem cut_chunks (hsize : 0 < size) {cuts : Nat} (henough : xs.length ≤ cuts) :
    Cut size xs (chunks size cuts xs) := by
  induction cuts generalizing xs with
  | zero => exact .last (by omega)
  | succ cuts ih =>
    unfold chunks
    split
    · next hshort => exact .last hshort
    · next hlong =>
      have hless : (xs.drop size).length ≤ cuts := by
        rw [List.length_drop]
        omega
      exact .next (by omega) (ih hless)

/-- No chunk is longer than the size. -/
theorem Cut.length_le (h : Cut size xs parts) : ∀ part ∈ parts, part.length ≤ size := by
  induction h with
  | last short =>
    intro part hpart
    rw [List.mem_singleton.1 hpart]
    exact short
  | next long more ih =>
    intro part hpart
    rcases List.mem_cons.1 hpart with rfl | hpart
    · exact List.length_take_le size _
    · exact ih part hpart

/-- There is always a chunk. -/
theorem Cut.parts_ne_nil (h : Cut size xs parts) : parts ≠ [] := by
  cases h with
  | last => exact List.cons_ne_nil _ _
  | next => exact List.cons_ne_nil _ _

/-- All chunks but the last are full. -/
theorem Cut.length_eq (h : Cut size xs parts) : ∀ part ∈ parts.dropLast, part.length = size := by
  induction h with
  | last =>
    intro part hpart
    cases hpart
  | @next xs parts long more ih =>
    intro part hpart
    rw [List.dropLast_cons_of_ne_nil more.parts_ne_nil] at hpart
    rcases List.mem_cons.1 hpart with rfl | hpart
    · rw [List.length_take]
      omega
    · exact ih part hpart

/-- No chunk of a list with elements is empty. -/
theorem Cut.ne_nil (h : Cut size xs parts) (hsize : 0 < size) (hxs : 0 < xs.length) :
    ∀ part ∈ parts, part ≠ [] := by
  induction h with
  | last =>
    intro part hpart
    rw [List.mem_singleton.1 hpart]
    exact List.ne_nil_of_length_pos hxs
  | @next xs parts long more ih =>
    have hmore : 0 < (xs.drop size).length := by
      rw [List.length_drop]
      omega
    intro part hpart
    rcases List.mem_cons.1 hpart with rfl | hpart
    · refine List.ne_nil_of_length_pos ?_
      rw [List.length_take]
      omega
    · exact ih hmore part hpart

/-- Chunks that could hold the list if they were full are enough. -/
theorem Cut.length_parts_le (h : Cut size xs parts) (hxs : 0 < xs.length)
    (hfits : xs.length ≤ most * size) : parts.length ≤ most := by
  induction h generalizing most with
  | @last xs short =>
    have hpos : 0 < most := by
      by_contra hzero
      rw [Nat.eq_zero_of_not_pos hzero] at hfits
      omega
    exact hpos
  | @next xs parts long more ih =>
    cases most with
    | zero => omega
    | succ most =>
      rw [Nat.succ_mul] at hfits
      have hlength : (xs.drop size).length = xs.length - size := List.length_drop
      have hmore : parts.length ≤ most := ih (by omega) (by omega)
      exact Nat.succ_le_succ hmore

/-- A list divided into chunks of a size, at most a number of them. -/
structure Division (size most : Nat) (xs : List α) (parts : List (List α)) : Prop where
  /-- They are what the cutting ends with. -/
  cut : Cut size xs parts
  /-- They are the list, in order and without a gap. -/
  flatten : parts.flatten = xs
  /-- None is empty. -/
  ne_nil : ∀ part ∈ parts, part ≠ []
  /-- None is longer than the size. -/
  length_le : ∀ part ∈ parts, part.length ≤ size
  /-- All but the last are full. -/
  length_eq : ∀ part ∈ parts.dropLast, part.length = size
  /-- There are at most as many as allowed. -/
  length_parts_le : parts.length ≤ most

/-- Chunks whose size is the quotient of elements and workers, rounded up, are a division with at
most one chunk for each worker. -/
theorem division_chunks {workers : Nat} (hworkers : 0 < workers) (hxs : 0 < xs.length) :
    Division ((xs.length + workers - 1) / workers) workers xs
      (chunks ((xs.length + workers - 1) / workers) xs.length xs) := by
  have hfits := le_mul_divCeil xs.length hworkers
  generalize (xs.length + workers - 1) / workers = size at hfits ⊢
  have hsize : 0 < size := by
    by_contra hzero
    rw [Nat.eq_zero_of_not_pos hzero] at hfits
    omega
  have hcut : Cut size xs (chunks size xs.length xs) := cut_chunks hsize (Nat.le_refl _)
  exact ⟨hcut, flatten_chunks size xs.length xs, hcut.ne_nil hsize hxs, hcut.length_le,
    hcut.length_eq, hcut.length_parts_le hxs hfits⟩

end Chunks

/-! ## Passes -/

variable {t : Transform} {cx : Context} {config : PassConfig} {records : List Record}

/-- The number of records in a chunk of a pass. -/
def shareSize (config : PassConfig) (records : Nat) : Nat :=
  (records + config.workersFor records - 1) / config.workersFor records

/-- The records of each worker of a pass. -/
def shares (config : PassConfig) (records : List Record) : List (List Record) :=
  if config.workersFor records.length ≤ 1 then [records]
  else chunks (shareSize config records.length) records.length records

/-- The shares of the workers are the records, in order. -/
theorem flatten_shares (config : PassConfig) (records : List Record) :
    (shares config records).flatten = records := by
  unfold shares
  split
  · exact List.flatten_singleton
  · exact flatten_chunks _ _ records

/-- The shares of several workers are a division of the records. -/
theorem division_shares (h : 1 < config.workersFor records.length) :
    Division (shareSize config records.length) (config.workersFor records.length) records
      (shares config records) := by
  have hle := PassConfig.workersFor_le h
  unfold shares
  rw [if_neg (Nat.not_le.2 h)]
  exact division_chunks (by omega) (by omega)

/-- A pass puts together what the workers give for their shares. -/
theorem runPass_eq_shares (t : Transform) (cx : Context) (config : PassConfig)
    (records : List Record) :
    t.runPass cx config records =
      concatResults ((shares config records).map (t.applyAll cx)) := by
  have hparts : concatResults ((shares config records).map (t.applyAll cx)) =
      (shares config records).flatten.mapM fun r => t r cx := concatResults_map_mapM _ _
  rw [hparts, flatten_shares]
  exact runPass_eq_applyAll t cx config records

/-- A pass whose arithmetic is computed by `clamp?` and `divCeil?`. -/
def runPass? (t : Transform) (cx : Context) (config : PassConfig) (records : List Record) :
    Option (Except MigrationError (List Output)) := do
  let workers ← config.workersFor? records.length
  if workers ≤ 1 then
    return t.applyAll cx records
  else
    let size ← divCeil? records.length workers
    return concatResults ((chunks size records.length records).map (t.applyAll cx))

/-- The arithmetic of a pass is defined for every configuration. -/
theorem runPass?_eq (t : Transform) (cx : Context) (config : PassConfig) (records : List Record) :
    t.runPass? cx config records = some (t.runPass cx config records) := by
  unfold runPass? runPass
  rw [PassConfig.workersFor?_eq, Option.bind_eq_bind, Option.bind_some]
  dsimp only
  split
  · rfl
  · next hmany =>
    rw [divCeil?_of_pos (by omega)]
    rfl

/-- The fallbacks of two lists of outputs add up. -/
theorem totalFallbacks_append (outputs more : List Output) :
    totalFallbacks (outputs ++ more) = totalFallbacks outputs + totalFallbacks more := by
  induction outputs with
  | nil => exact (Nat.zero_add _).symm
  | cons output rest ih =>
    rw [List.cons_append, totalFallbacks_cons, ih, totalFallbacks_cons, Nat.add_assoc]

/-- The fallbacks that each worker counts add up to those of all outputs. -/
theorem totalFallbacks_flatten (parts : List (List Output)) :
    totalFallbacks parts.flatten = (parts.map totalFallbacks).foldr (· + ·) 0 := by
  induction parts with
  | nil => rfl
  | cons outputs rest ih =>
    rw [List.flatten_cons, totalFallbacks_append, ih, List.map_cons, List.foldr_cons]

/-- Fallbacks are the same in whatever order they are counted. -/
theorem totalFallbacks_perm {counted outputs : List Output} (h : counted.Perm outputs) :
    totalFallbacks counted = totalFallbacks outputs := by
  induction h with
  | nil => rfl
  | cons output _ ih => rw [totalFallbacks_cons, totalFallbacks_cons, ih]
  | swap first second rest =>
    simp only [totalFallbacks_cons]
    omega
  | trans _ _ ih₁ ih₂ => exact ih₁.trans ih₂

/-- When the results of all parts put together are a success, every part succeeded. -/
theorem concatResults_eq_ok {ε α : Type} {results : List (Except ε (List α))} {xs : List α}
    (h : concatResults results = .ok xs) :
    ∃ parts : List (List α), results = parts.map .ok ∧ parts.flatten = xs := by
  induction results generalizing xs with
  | nil =>
    cases h
    exact ⟨[], rfl, rfl⟩
  | cons result rest ih =>
    cases result with
    | error e => cases h
    | ok ys =>
      unfold concatResults at h
      cases hrest : concatResults rest with
      | error e =>
        rw [hrest] at h
        cases h
      | ok more =>
        rw [hrest] at h
        cases h
        obtain ⟨parts, rfl, rfl⟩ := ih hrest
        exact ⟨ys :: parts, rfl, rfl⟩

/-- What a pass gives, however it is divided among workers. -/
structure PassSpec (t : Transform) (cx : Context) (config : PassConfig) (records : List Record) :
    Prop where
  /-- The arithmetic of the division is defined. -/
  defined : t.runPass? cx config records = some (t.runPass cx config records)
  /-- The result is that of one worker. -/
  sequential : t.runPass cx config records = t.applyAll cx records
  /-- It succeeds with the outputs of all records, in the order of the records. -/
  succeeds : ∀ outputs, t.runPass cx config records = .ok outputs ↔
    List.Forall₂ (fun r output => t r cx = .ok output) records outputs
  /-- It fails with the error of the first record that fails. -/
  fails : ∀ e, t.runPass cx config records = .error e ↔
    ∃ before r after, records = before ++ r :: after ∧
      (∀ b ∈ before, ∃ output, t b cx = .ok output) ∧ t r cx = .error e
  /-- When it succeeds, so do the workers, and the fallbacks that they count in any order are those
  that one worker counts. -/
  counts : ∀ outputs, t.runPass cx config records = .ok outputs →
    ∃ parts : List (List Output),
      (shares config records).map (t.applyAll cx) = parts.map .ok ∧
      parts.flatten = outputs ∧
      (parts.map totalFallbacks).foldr (· + ·) 0 = totalFallbacks outputs ∧
      ∀ counted, counted.Perm outputs → totalFallbacks counted = totalFallbacks outputs
  /-- Several workers divide the records among them. -/
  divided : 1 < config.workersFor records.length →
    Division (shareSize config records.length) (config.workersFor records.length) records
      (shares config records)

/-- Every pass gives what it should, whatever its configuration. -/
theorem passSpec (t : Transform) (cx : Context) (config : PassConfig) (records : List Record) :
    PassSpec t cx config records := by
  have hsequential := runPass_eq_applyAll t cx config records
  constructor
  · exact runPass?_eq t cx config records
  · exact hsequential
  · intro outputs
    rw [hsequential]
    exact applyAll_eq_ok_iff
  · intro e
    rw [hsequential]
    exact applyAll_eq_error_iff
  · intro outputs h
    rw [runPass_eq_shares] at h
    obtain ⟨parts, hparts, rfl⟩ := concatResults_eq_ok h
    exact ⟨parts, hparts, rfl, (totalFallbacks_flatten parts).symm,
      fun _ hcounted => totalFallbacks_perm hcounted⟩
  · exact division_shares

end Transform

/-! ## Runs -/

namespace Step

/-- What a step transforms does not depend on its workers. -/
theorem transformed_pass (step : Step) (next : Schema) (config config' : PassConfig) (d : Draft) :
    step.transformed next config d = step.transformed next config' d := by
  unfold transformed
  split
  · rfl
  · simp only [Transform.runPass_eq_applyAll]

/-- The plan of a step does not depend on its workers. -/
theorem plan_pass (step : Step) (live next : Schema) (config config' : PassConfig) (s : Store) :
    step.plan live next config s = step.plan live next config' s := by
  unfold plan
  simp only [step.transformed_pass next config config']

end Step

namespace Registry

variable (registry : Registry)

/-- Taking a step does not depend on its workers. -/
theorem stepFrom_pass (config config' : PassConfig) (version : Nat) (journal : Journal)
    (s : Store) :
    registry.stepFrom config version journal s = registry.stepFrom config' version journal s := by
  unfold stepFrom applyStep commitStep
  simp only [Step.plan_pass _ _ _ config config']

/-- Taking several steps and concluding does not depend on the workers of any of them. -/
theorem walk_withPass (config : RunConfig) (pass : PassConfig) (steps version : Nat)
    (journal : Journal) (reports : List StepReport) (s : Store) :
    registry.walk { config with pass } steps version journal reports s =
      registry.walk config steps version journal reports s := by
  induction steps generalizing version journal reports s with
  | zero => rfl
  | succ steps ih =>
    have hstep := registry.stepFrom_pass pass config.pass version journal s
    unfold walk
    rw [hstep]
    simp only [ih]

/-- A run does not depend on the workers of its steps. -/
theorem run_withPass (config : RunConfig) (pass : PassConfig) (s : Store) :
    registry.run { config with pass } s = registry.run config s := by
  unfold run runFrom migrate
  simp only [walk_withPass]
  rfl

/-- **Workers do not show.** Every pass gives what one worker gives, whatever its configuration, and
so does every run: its events, its outcome and the store that it leaves are the same for all
configurations of passes. -/
theorem run_and_pass_of_config :
    (∀ t cx config records, Transform.PassSpec t cx config records) ∧
    ∀ (registry : Registry) (config : RunConfig) (pass : PassConfig) (s : Store),
      registry.run { config with pass } s = registry.run config s :=
  ⟨Transform.passSpec, run_withPass⟩

/-- A transform that falls back for even rows and gives up on odd ones. -/
def evenRows : Transform := fun r cx =>
  match r.key with
  | .row n =>
    if n % 2 = 0 then .ok (.fallback (.ofRecord r))
    else .error (.transform cx.entity ("odd row " ++ toString n))
  | _ => .ok (.ofRecord r)

/-- Records of an entity without a primary key. -/
def itemRows (numbers : List UInt64) : List Record := numbers.map fun n => .ofKey (.row n)

/-- What the transform of an entity reads when there are no records. -/
def items : Transform.Context := ⟨.empty 0, "Item"⟩

/-- Four workers share five rows as two, two and one. Both the first worker and the second fail, and
the error is the one of the first. Without odd rows every row has its output. -/
theorem run_and_pass_of_config_rows :
    Transform.shares ⟨some 4, 0⟩ (itemRows [0, 1, 2, 3, 4]) =
      [itemRows [0, 1], itemRows [2, 3], itemRows [4]] ∧
    evenRows.runPass items ⟨some 4, 0⟩ (itemRows [0, 1, 2, 3, 4]) =
      .error (.transform "Item" "odd row 1") ∧
    evenRows.runPass items ⟨some 4, 0⟩ (itemRows [0, 2, 4]) =
      .ok ((itemRows [0, 2, 4]).map fun r => .fallback (.ofRecord r)) := by
  refine ⟨rfl, ?_, ?_⟩
  · refine ((run_and_pass_of_config.1 evenRows items _ _).fails _).2
      ⟨itemRows [0], .ofKey (.row 1), itemRows [2, 3, 4], rfl, fun b hb => ?_, rfl⟩
    rw [List.mem_singleton.1 hb]
    exact ⟨_, rfl⟩
  · exact ((run_and_pass_of_config.1 evenRows items _ _).succeeds _).2
      (.cons rfl (.cons rfl (.cons rfl .nil)))

end Registry

end Strata
