import Strata.Directory.Failure
import Strata.Directory.Path
import Std.Data.ExtTreeMap

/-!
# Trees of directories

Files and directories below a root, and what reading files and making directories at paths comes
to. A path is followed name by name. Every name but the last has to lead to a directory, and which
failure is met first decides.
-/

namespace Strata

/-- Where something is: the names on the way from the root. -/
abbrev Place := List String

/-- What there is at a place. -/
inductive Entry where
  /-- A directory. -/
  | directory
  /-- A file; without text if its bytes are none. -/
  | file (text? : Option String)
  deriving DecidableEq

/-- Files and directories. -/
structure FileTree where
  /-- What there is at every place but the root. -/
  entries : Std.ExtTreeMap Place Entry
  /-- The working directory. -/
  home : Place

namespace FileTree

/-- What there is at a place. The root is a directory. -/
def entry? (t : FileTree) (p : Place) : Option Entry :=
  if p.isEmpty then some .directory else t.entries[p]?

/-- Whether there is a directory at a place. -/
def isDirectory (t : FileTree) (p : Place) : Bool := t.entry? p == some .directory

/-- The tree with something new at a place. -/
def put (t : FileTree) (p : Place) (e : Entry) : FileTree :=
  { t with entries := t.entries.insert p e }

/-- The place that a name leads to from a directory, whether there is anything or not. The root is
above itself. -/
def step (t : FileTree) (p : Place) (name : String) : Except FileError Place :=
  if !t.isDirectory p then .error .notDirectory
  else if name = "." then .ok p
  else if name = ".." then .ok p.dropLast
  else if Path.maxNameSize < name.utf8ByteSize then .error .nameTooLong
  else .ok (p ++ [name])

/-- The place that a name leads to from a directory. There has to be something. -/
def enter (t : FileTree) (p : Place) (name : String) : Except FileError Place := do
  let p ← t.step p name
  if (t.entry? p).isSome then pure p else throw .missing

/-- Where a path begins. -/
def start (t : FileTree) (fromRoot : Bool) : Place := if fromRoot then [] else t.home

/-- The place that a path leads to. -/
def follow (t : FileTree) (path : Path) : Except FileError Place := do
  if Path.maxSize < path.size then throw .nameTooLong
  let p ← path.names.foldlM t.enter (t.start path.fromRoot)
  if path.endsInSlash && !t.isDirectory p then throw .notDirectory
  pure p

/-- The text of the file at a path. -/
def read (t : FileTree) (path : Path) : Except FileError String := do
  match t.entry? (← t.follow path) with
  | some (.file (some text)) => pure text
  | some (.file none) => throw .notText
  | some .directory => throw .isDirectory
  | none => throw .missing

/-- Makes a directory; the one that it is in has to be there. The names come from the last to the
first. -/
def make (t : FileTree) (start : Place) : List String → Except FileError FileTree
  | [] => .error .occupied
  | last :: above => do
    let p ← above.reverse.foldlM t.enter start
    let p ← t.step p last
    if (t.entry? p).isSome then throw .occupied
    pure (t.put p .directory)

/-- Whether names, from the last to the first, lead to a directory. -/
def leadsToDirectory (t : FileTree) (start : Place) (names : List String) : Bool :=
  match names.reverse.foldlM t.enter start with
  | .ok p => t.isDirectory p
  | .error _ => false

/-- Makes a directory unless there is one. -/
def ensure (t : FileTree) (start : Place) (names : List String) : Except FileError FileTree :=
  match t.make start names with
  | .error .occupied => if t.leadsToDirectory start names then .ok t else .error .occupied
  | result => result

/-- Makes a directory and those above it that are missing. The names come from the last to the
first. What was made before a failure stays. -/
def ensureAll (t : FileTree) (start : Place) : List String → Except FileError Unit × FileTree
  | [] => (.ok (), t)
  | last :: above =>
    match t.ensure start (last :: above) with
    | .ok t => (.ok (), t)
    | .error .missing =>
      match ensureAll t start above with
      | (.error e, t) => (.error e, t)
      | (.ok (), t) =>
        match t.ensure start (last :: above) with
        | .ok t => (.ok (), t)
        | .error e => (.error e, t)
    | .error e => (.error e, t)

/-- Makes the directory at a path and those above it that are missing. -/
def ensurePath (t : FileTree) (path : Path) : Except FileError Unit × FileTree :=
  if Path.maxSize < path.size then (.error .nameTooLong, t)
  else t.ensureAll (t.start path.fromRoot) (path.names.filter (· != ".")).reverse

/-- The tree with a file that is not for reading at a place, unless there is a file. -/
def ensureFile (t : FileTree) (p : Place) : Except FileError FileTree :=
  match t.entry? p with
  | some .directory => .error .isDirectory
  | some (.file _) => .ok t
  | none => .ok (t.put p (.file none))

/-- The tree with a text file in the working directory, and the directories above it. -/
def addText (t : FileTree) (path text : String) : FileTree :=
  let names := (Path.ofString path).names
  let t := (t.ensureAll t.home names.dropLast.reverse).2
  t.put (t.home ++ names) (.file (some text))

end FileTree

end Strata
