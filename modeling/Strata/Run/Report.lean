/-!
# Reports of runs

What a run tells when it succeeds: the versions it went between and, for each step that was
committed, how many records it touched.
-/

namespace Strata

/-- The outcome of a committed step. -/
structure StepReport where
  /-- The version the step started from. -/
  source : Nat
  /-- The version the step led to. -/
  target : Nat
  /-- What the step is about. -/
  description : String
  /-- The records that went through the transform. -/
  transformed : Nat
  /-- The records that were emitted or inserted. -/
  added : Nat
  /-- The records that were written, including those that were only edited. -/
  written : Nat
  /-- The records that were deleted with cleared tables. -/
  deleted : Nat
  /-- The preferences that were set or deleted. -/
  preferences : Nat
  /-- The fallbacks taken and the emitted records dropped. -/
  fallbacks : Nat
  /-- The time that the step took in milliseconds. -/
  elapsedMs : Nat
  deriving DecidableEq, Inhabited

/-- The outcome of a successful run. -/
structure RunReport where
  /-- The version the store was at. -/
  fromVersion : Nat
  /-- The version the store is at. -/
  toVersion : Nat
  /-- Whether an empty store was set up at the current version. -/
  initialized : Bool
  /-- The committed steps in order. -/
  steps : List StepReport
  deriving DecidableEq, Inhabited

namespace RunReport

/-- The report of a run that changed nothing. -/
def unchanged (version : Nat) : RunReport := ⟨version, version, false, []⟩

/-- Whether the run changed nothing. -/
def isNoop (r : RunReport) : Bool := !r.initialized && r.steps.isEmpty

/-- The fallbacks of all steps. -/
def totalFallbacks (r : RunReport) : Nat := (r.steps.map (·.fallbacks)).foldr (· + ·) 0

end RunReport

end Strata
