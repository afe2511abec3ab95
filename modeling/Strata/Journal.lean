/-!
# Run journals

The journal of a run is stored with the store. It lists the steps that the run has to take and how
far each got, so that a store whose last run failed can be refused and a run that was cut off can be
seen. `Journal.begin` lists one pending entry for each version passed.
-/

namespace Strata

/-- How a run stands. -/
inductive RunStatus where
  /-- Steps are being taken. -/
  | running
  /-- The run reached its target and the final check passed. -/
  | complete
  /-- The run stopped on an error. -/
  | failed
  deriving DecidableEq, Inhabited

/-- The name of a run status. -/
def RunStatus.text : RunStatus → String
  | running => "running"
  | complete => "complete"
  | failed => "failed"

/-- How a step of a run stands. -/
inductive StepStatus where
  /-- The step has not been taken. -/
  | pending
  /-- The step was committed. -/
  | complete
  /-- The step failed and nothing of it was committed. -/
  | failed
  deriving DecidableEq, Inhabited

/-- The name of a step status. -/
def StepStatus.text : StepStatus → String
  | pending => "pending"
  | complete => "complete"
  | failed => "failed"

/-- The entry of one step. -/
structure Progress where
  /-- The version the step starts from. -/
  source : Nat
  /-- How the step stands. -/
  status : StepStatus
  /-- Whether an end was recorded. -/
  ended : Bool
  /-- How many records the step wrote. -/
  written : Nat
  /-- How many fallbacks the step took. -/
  fallbacks : Nat
  /-- The message of the error that stopped the step. -/
  error? : Option String
  deriving DecidableEq, Inhabited

namespace Progress

/-- The entry of a step not yet taken. -/
def pending (source : Nat) : Progress := ⟨source, .pending, false, 0, 0, none⟩

/-- The entry once the step is committed. -/
def complete (p : Progress) (written fallbacks : Nat) : Progress :=
  { p with status := .complete, ended := true, written, fallbacks }

/-- The entry once the step has failed. -/
def fail (p : Progress) (error : String) : Progress :=
  { p with status := .failed, ended := true, error? := some error }

end Progress

/-- The journal of a run. -/
structure Journal where
  /-- The version the run started from. -/
  fromVersion : Nat
  /-- The version the run goes to. -/
  toVersion : Nat
  /-- How the run stands. -/
  status : RunStatus
  /-- Whether an end was recorded. -/
  ended : Bool
  /-- The message of the error that stopped the run. -/
  error? : Option String
  /-- One entry for each step, in order. -/
  steps : List Progress
  deriving DecidableEq, Inhabited

namespace Journal

/-- The journal of a run that starts. -/
def begin (fromVersion toVersion : Nat) : Journal :=
  ⟨fromVersion, toVersion, .running, false, none,
    (List.range' fromVersion (toVersion - fromVersion)).map .pending⟩

/-- Whether the journal has an entry for the step from a version. -/
def hasStep (j : Journal) (source : Nat) : Bool := j.steps.any (·.source == source)

/-- The journal with the entry of a step changed; without such an entry, the journal itself. -/
def updateStep (j : Journal) (source : Nat) (change : Progress → Progress) : Journal :=
  { j with steps := j.steps.map fun p => if p.source = source then change p else p }

/-- The journal once the step from a version is committed. -/
def completeStep (j : Journal) (source written fallbacks : Nat) : Journal :=
  j.updateStep source (·.complete written fallbacks)

/-- The journal once the step from a version has failed. -/
def failStep (j : Journal) (source : Nat) (error : String) : Journal :=
  j.updateStep source (·.fail error)

/-- The journal once the run is complete. -/
def complete (j : Journal) : Journal := { j with status := .complete, ended := true }

/-- The journal once the run has failed. -/
def fail (j : Journal) (error : String) : Journal :=
  { j with status := .failed, ended := true, error? := some error }

/-- The journal without an error message. -/
def clearError (j : Journal) : Journal := { j with error? := none }

/-- How many steps are committed. -/
def completedSteps (j : Journal) : Nat := j.steps.countP (·.status == .complete)

/-- Whether the run failed. -/
def isFailed (j : Journal) : Bool := j.status == .failed

/-- Whether the run was cut off and can be taken up again. -/
def canResume (j : Journal) : Bool := j.status == .running

/-- The message of the error that stopped the run, or a stand-in when none was recorded. -/
def reason (j : Journal) : String := j.error?.getD "unknown error"

end Journal

end Strata
