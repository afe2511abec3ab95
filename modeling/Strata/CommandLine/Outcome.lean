import Strata.CommandLine.Commands

/-!
# Outcomes of command lines

What a command line comes to: it is refused, its command fails, or the command shows something. The
address book is read before the store is opened, so a bad address book leaves no store behind; the
configuration of a run is read when the store is open.
-/

namespace Strata.CommandLine

/-- What a command line leads to. -/
inductive Outcome where
  /-- The line is refused. -/
  | refused
  /-- The command fails. -/
  | failed (error : CommandError)
  /-- The command shows something. -/
  | printed (output : Output)
  deriving DecidableEq

namespace Outcome

/-- The exit code. -/
def code : Outcome → Nat
  | refused | failed _ => 2
  | printed output => output.code

/-- How the arguments of a command line are given. -/
def usage : String :=
  "Usage: --path DIR [--format table|json] [--contacts FILE] COMMAND\n\n" ++
  "Commands: status, check [--schema-only], stamp VERSION,\n" ++
  "  migrate [--config FILE] [--workers N] [--retry-failed]"

/-- What is written to the error stream, if anything. -/
def complaint? : Outcome → Option String
  | refused => some usage
  | failed error => some ("Error: " ++ error.message)
  | printed _ => none

/-- What is written to the output stream, if anything. -/
def text? : Outcome → Option String
  | printed output => some output.text
  | _ => none

end Outcome

/-- The registry that accepted arguments ask for. -/
def Arguments.registry (args : Arguments) (files : Files) : Except CommandError Registry :=
  messageRegistry files args.contacts?

/-- Carries out the command of accepted arguments on an open store. Gives what comes of it, and the
store that is left. -/
def Arguments.carryOut (args : Arguments) (files : Files) (registry : Registry) (s : Store) :
    Outcome × Store :=
  match perform files registry args.format args.command s with
  | (.error e, s) => (.failed e, s)
  | (.ok output, s) => (.printed output, s)

end Strata.CommandLine
