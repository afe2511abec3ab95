import Strata.Transform.Basic

/-!
# Transform passes

A pass applies a transform to the records of an entity in order. A large pass is cut into contiguous
chunks, one for each worker; the outputs are put together in the order of the records, and of the
chunks that fail the first decides the error.
-/

namespace Strata

/-- How a pass is divided among workers. -/
structure PassConfig where
  /-- The number of workers for a large pass; without one the machine's number is used. -/
  workers? : Option Nat
  /-- The number of records up to which one worker does the whole pass. -/
  parallelThreshold : Nat
  deriving DecidableEq, Inhabited

namespace PassConfig

/-- The greatest number that a threshold can be. -/
def maxThreshold : Nat := UInt64.size - 1

/-- The machine's workers for passes of more than 2048 records. -/
def standard : PassConfig := ⟨none, 2048⟩

/-- One worker whatever the number of records. -/
def sequential : PassConfig := ⟨some 1, maxThreshold⟩

/-- The configuration with a number of workers, at least one. -/
def withWorkers (c : PassConfig) (workers : Nat) : PassConfig :=
  { c with workers? := some (max workers 1) }

/-- The number of workers taken when the machine does not tell how many it has. -/
def machineWorkers : Nat := 2

/-- The number of workers for a pass over a number of records: one for a small pass, and otherwise
at least one and at most one for each record. -/
def workersFor (c : PassConfig) (records : Nat) : Nat :=
  if records ≤ c.parallelThreshold then 1
  else max 1 (min (c.workers?.getD machineWorkers) records)

end PassConfig

namespace Transform

/-- Contiguous chunks of `size` elements, the last of which may be shorter. `cuts` bounds the number
of cuts that are made. -/
def chunks {α : Type} (size : Nat) : Nat → List α → List (List α)
  | 0, xs => [xs]
  | cuts + 1, xs =>
    if xs.length ≤ size then [xs] else xs.take size :: chunks size cuts (xs.drop size)

/-- The results of all chunks one after the other, or the error of the first that failed. -/
def concatResults {ε α : Type} : List (Except ε (List α)) → Except ε (List α)
  | [] => .ok []
  | .error e :: _ => .error e
  | .ok xs :: rest => (concatResults rest).map (xs ++ ·)

/-- Applies a transform to records one after the other, up to the first that fails. -/
def applyAll (t : Transform) (cx : Context) (records : List Record) :
    Except MigrationError (List Output) :=
  records.mapM fun r => t r cx

/-- Applies a transform to records, divided among workers. Chunks hold the quotient of records and
workers, rounded up. -/
def runPass (t : Transform) (cx : Context) (config : PassConfig) (records : List Record) :
    Except MigrationError (List Output) :=
  let workers := config.workersFor records.length
  if workers ≤ 1 then applyAll t cx records
  else
    let size := (records.length + workers - 1) / workers
    concatResults ((chunks size records.length records).map (applyAll t cx))

/-- The number of fallbacks of all outputs. -/
def totalFallbacks (outputs : List Output) : Nat :=
  (outputs.map (·.fallbacks)).foldr (· + ·) 0

end Transform

end Strata
