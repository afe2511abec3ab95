/-!
# Phases of a run

A run is idle, takes its steps one version at a time, validates, and ends finished or failed. It can
fail from every phase that is not already an end. `Phase.canAdvance` is that relation.
-/

namespace Strata

/-- Where a run stands. -/
inductive Phase where
  /-- The version is known and nothing has been done. -/
  | idle (version : Nat)
  /-- Steps are being taken; `version` is committed. -/
  | stepping (version target : Nat)
  /-- The end state is being checked. -/
  | validating
  /-- The store is current. -/
  | finished
  /-- The run stopped on an error. -/
  | failed
  deriving DecidableEq, Inhabited

namespace Phase

/-- Whether a phase ends a run. -/
def isTerminal : Phase → Bool
  | finished | failed => true
  | _ => false

/-- Whether a phase may be followed by another. Steps go up by one version towards one target. -/
def canAdvance : Phase → Phase → Bool
  | p, failed => !p.isTerminal
  | idle _, stepping .. => true
  | idle _, finished => true
  | stepping version target, stepping version' target' =>
    target' == target && version' == version + 1
  | stepping .., validating => true
  | validating, finished => true
  | _, _ => false

/-- The wording of a phase. -/
def text : Phase → String
  | idle version => "idle at v" ++ toString version
  | stepping version target => "stepping v" ++ toString version ++ " -> v" ++ toString target
  | validating => "validating"
  | finished => "done"
  | failed => "failed"

end Phase

end Strata
