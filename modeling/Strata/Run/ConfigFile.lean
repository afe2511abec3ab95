import Strata.Json.Decode
import Strata.Run.Basic

/-!
# Run configurations in JSON

A run configuration is a JSON structure; what it leaves out is as in the standard configuration.
-/

namespace Strata

open Document (Member nat? bool? structure?)

/-- The members of the configuration of a pass. -/
def PassConfig.members : List (Member PassConfig) := [
  .of "workers" nat? fun c n => { c with workers? := some n },
  .of "parallel_threshold" nat? fun c n => { c with parallelThreshold := n }]

/-- The configuration of a pass that a document holds. -/
def PassConfig.ofDocument? : Document → Option PassConfig :=
  structure? PassConfig.members .standard

/-- The members of a run configuration. -/
def RunConfig.members : List (Member RunConfig) := [
  .of "transform" PassConfig.ofDocument? fun c pass => { c with pass },
  .of "verify_records" bool? fun c b => { c with verifyRecords := b },
  .of "retry_failed" bool? fun c b => { c with retryFailed := b }]

/-- The run configuration that a document holds. -/
def RunConfig.ofDocument? : Document → Option RunConfig :=
  structure? RunConfig.members .standard

/-- The run configuration that a JSON text holds. -/
def RunConfig.ofText? (text : String) : Option RunConfig :=
  (Document.read? text).bind RunConfig.ofDocument?

/-- The configuration with what the command line asks for: a number of workers, and a second try. -/
def RunConfig.override (c : RunConfig) (workers : Option Nat) (retryFailed : Bool) : RunConfig :=
  { c with
    pass := match workers with
      | some n => c.pass.withWorkers n
      | none => c.pass
    retryFailed := c.retryFailed || retryFailed }

end Strata
