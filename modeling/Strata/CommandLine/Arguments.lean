import Strata.Output.Format

/-!
# Command-line arguments

A command line names the store's directory, may choose the form of the output and an address book,
and ends in a command with its own options:

    --path DIR [--format table|json] [--contacts FILE] COMMAND

The directory (`-p` for short) comes before the command; the form and the address book may stand on
either side, and what stands after the command decides. An option takes its value from the next
word, or from the same word behind an equals sign. No option may be given twice on one side, values
that begin with a dash have to be attached, and every word after `--` is taken as it is.

`parse?` gives the arguments, or none for a line that is refused.
-/

namespace Strata.CommandLine

/-- What a command line asks for. -/
inductive Command where
  /-- Show the status of the store. -/
  | status
  /-- Check the store, perhaps without looking at records. -/
  | check (schemaOnly : Bool)
  /-- Bring the store to the current version. -/
  | migrate (config? : Option String) (workers? : Option Nat) (retryFailed : Bool)
  /-- Stamp a store without a version. -/
  | stamp (version : Nat)
  deriving DecidableEq

/-- A command line. -/
structure Arguments where
  /-- The directory of the store. -/
  path : String
  /-- The form of the output. -/
  format : Format
  /-- The file with the address book. -/
  contacts? : Option String
  /-- What to do. -/
  command : Command
  deriving DecidableEq

/-- An option that a command line may hold. -/
structure Switch where
  /-- The name behind two dashes. -/
  long : String
  /-- The name behind one dash. -/
  short? : Option Char
  /-- Whether the option takes a value. -/
  takesValue : Bool

/-- The options and words of one side of a command line. -/
structure Scan where
  /-- The values of the options by long name; an option without value has an empty one. -/
  options : List (String × String)
  /-- The other words in order. -/
  words : List String
  deriving DecidableEq

/-- The paths of the configuration files that a command line names. -/
def Arguments.configs (args : Arguments) : List String :=
  match args.command with
  | .migrate config? _ _ => config?.toList
  | _ => []

namespace Scan

/-- Nothing read yet. -/
def empty : Scan := ⟨[], []⟩

/-- Whether an option was read. -/
def has (s : Scan) (name : String) : Bool := (s.options.lookup name).isSome

/-- Notes an option, which must not have been read before. -/
def addOption? (s : Scan) (name value : String) : Option Scan :=
  if s.has name then none else some { s with options := s.options ++ [(name, value)] }

/-- Notes a word. -/
def addWord (s : Scan) (word : String) : Scan := { s with words := s.words ++ [word] }

end Scan

/-- The part of a list of characters before the first equals sign, and what is behind it if there is
one. -/
def splitEquals (cs : List Char) : List Char × Option (List Char) :=
  match cs.dropWhile (· != '=') with
  | [] => (cs, none)
  | _ :: value => (cs.takeWhile (· != '='), some value)

/-- Whether a word is an option: it begins with a dash and is not a lone dash. -/
def isOption (word : String) : Bool := word.toList.head? == some '-' && word != "-"

/-- The value of an option: the attached one, else the next word. Gives the remaining words too. -/
def takeValue? (s : Switch) (attached : Option (List Char)) (rest : List String) :
    Option (String × List String) :=
  if s.takesValue then
    match attached, rest with
    | some value, _ => some (String.ofList value, rest)
    | none, word :: rest => if isOption word then none else some (word, rest)
    | none, [] => none
  else if attached.isNone then some ("", rest) else none

/-- The option that a word begins, with its value and the remaining words. -/
def option? (known : List Switch) (word : List Char) (rest : List String) :
    Option (String × String × List String) :=
  match word with
  | '-' :: '-' :: name =>
    let (name, attached) := splitEquals name
    match known.find? (·.long == String.ofList name) with
    | some s => (takeValue? s attached rest).map fun (value, rest) => (s.long, value, rest)
    | none => none
  | '-' :: letter :: attached =>
    match known.find? (·.short? == some letter) with
    | some s =>
      let attached := match attached with
        | [] => none
        | '=' :: value => some value
        | value => some value
      (takeValue? s attached rest).map fun (value, rest) => (s.long, value, rest)
    | none => none
  | _ => none

/-- Reads a side of a command line up to its end or, if `untilWord` is set, up to its first word,
and gives what was read with the remaining words. Every round takes a word, so the number of words
bounds the work. -/
def scan? (known : List Switch) (untilWord : Bool) :
    Nat → Scan → List String → Option (Scan × List String)
  | _, s, [] => some (s, [])
  | 0, _, _ :: _ => none
  | fuel + 1, s, word :: rest =>
    if word = "--" then
      if untilWord then (if rest.isEmpty then some (s, []) else none)
      else some ({ s with words := s.words ++ rest }, [])
    else if !isOption word then
      if untilWord then some (s, word :: rest) else scan? known untilWord fuel (s.addWord word) rest
    else
      match option? known word.toList rest with
      | none => none
      | some (name, value, rest) =>
        match s.addOption? name value with
        | some s => scan? known untilWord fuel s rest
        | none => none

/-- The options that may stand on either side of the command. -/
def sharedSwitches : List Switch := [⟨"format", none, true⟩, ⟨"contacts", none, true⟩]

/-- The options before the command. -/
def leadingSwitches : List Switch := ⟨"path", some 'p', true⟩ :: sharedSwitches

/-- The options after a command. -/
def switchesOf (command : String) : List Switch :=
  if command = "check" then ⟨"schema-only", none, false⟩ :: sharedSwitches
  else if command = "migrate" then
    ⟨"config", none, true⟩ :: ⟨"workers", none, true⟩ :: ⟨"retry-failed", none, false⟩ ::
      sharedSwitches
  else sharedSwitches

/-- A number of at most 64 bits in decimal digits; a plus sign may stand before them. -/
def number? (s : String) : Option Nat :=
  let digits := match s.toList with
    | '+' :: rest => rest
    | cs => cs
  if digits.isEmpty || !digits.all Char.isDigit then none
  else
    let n := digits.foldl (fun n c => 10 * n + (c.toNat - 48)) 0
    if n < UInt64.size then some n else none

/-- The form of output of a name. -/
def format? (name : String) : Option Format :=
  if name = "table" then some .table else if name = "json" then some .json else none

/-- The value of an option that was given, decoded; refused if the decoder refuses it. -/
def optional? {α : Type} (s : Scan) (name : String) (decode : String → Option α) :
    Option (Option α) :=
  match s.options.lookup name with
  | none => some none
  | some value => (decode value).map some

/-- A path, which must not be empty. -/
def path? (value : String) : Option String := if value.isEmpty then none else some value

/-- The command of a name with the options and words behind it. -/
def command? (name : String) (s : Scan) : Option Command :=
  if name = "stamp" then
    match s.words with
    | [version] => (number? version).map .stamp
    | _ => none
  else if !s.words.isEmpty then none
  else if name = "status" then some .status
  else if name = "check" then some (.check (s.has "schema-only"))
  else if name = "migrate" then do
    let config ← optional? s "config" path?
    let workers ← optional? s "workers" number?
    pure (.migrate config workers (s.has "retry-failed"))
  else none

/-- The arguments of a command line, if it is accepted. -/
def parse? (words : List String) : Option Arguments := do
  let (leading, rest) ← scan? leadingSwitches true words.length .empty words
  match rest with
  | [] => none
  | name :: rest => do
    let (trailing, _) ← scan? (switchesOf name) false rest.length .empty rest
    let command ← command? name trailing
    let path ← (← optional? leading "path" path?)
    let format ← optional? leading "format" format?
    let format' ← optional? trailing "format" format?
    let contacts ← optional? leading "contacts" path?
    let contacts' ← optional? trailing "contacts" path?
    pure ⟨path, (format' <|> format).getD .table, contacts' <|> contacts, command⟩

end Strata.CommandLine
