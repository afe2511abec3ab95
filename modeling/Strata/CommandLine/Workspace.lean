import Strata.CommandLine.Outcome
import Strata.Directory.Tree

/-!
# Workspaces

A workspace is what the command line sees of a machine: files and directories, and stores that live
on from one command to the next. Running a command line on it gives what is printed and the exit
code.

A store takes a directory. Opening it makes the directory and, in it, a directory and two files of
the store's own, which are not for reading.
-/

namespace Strata.CommandLine

/-- The directory that a store keeps in its own. -/
def storeFolder : String := "blobs"

/-- The files that a store keeps in its directory. -/
def storeFiles : List String := ["conf", "db"]

/-- Files, directories and stores. -/
structure Workspace where
  /-- The files and directories. -/
  tree : FileTree
  /-- The stores by their directories. -/
  stores : Std.ExtTreeMap Place Store

namespace Workspace

/-- The directories that every machine has. -/
def standardDirectories : List String :=
  ["bin", "dev", "etc", "home", "lib", "proc", "root", "run", "sys", "tmp", "usr", "var"]

/-- A working directory without files, and a null device. -/
def empty : Workspace :=
  let home := ["tmp", "workspace"]
  let directories := standardDirectories.map fun name => ([name], Entry.directory)
  ⟨⟨.ofList (directories ++ [(home, .directory), (["dev", "null"], .file (some ""))]), home⟩, ∅⟩

/-- A working directory with the given files and no stores. -/
def ofFiles (files : List (String × String)) : Workspace :=
  { empty with tree := files.foldl (fun t (path, text) => t.addText path text) empty.tree }

/-- The texts of the files. -/
def files (w : Workspace) : Files := fun path => w.tree.read (.ofString path)

/-- The tree with the directory and the files of a store, as far as they can be made, and the place
of its directory. The store's folder is made first, with every directory above it. -/
def layOut (t : FileTree) (path : Path) : Except FileError Place × FileTree :=
  let folder := path.child storeFolder
  let (made, t) := if (t.follow folder).isOk then (.ok (), t) else t.ensurePath folder
  match made, t.follow path with
  | .error e, _ | _, .error e => (.error e, t)
  | .ok (), .ok place =>
    match storeFiles.foldlM (fun t name => t.ensureFile (place ++ [name])) t with
    | .error e => (.error e, t)
    | .ok t => (.ok place, t)

/-- Opens the store at a path; one that does not exist is created empty. Gives its place too. -/
def openStore (w : Workspace) (path : String) : Except CommandError (Place × Store) × Workspace :=
  match layOut w.tree (.ofString path) with
  | (.error e, tree) => (.error (.unopened e), { w with tree })
  | (.ok place, tree) =>
    (.ok (place, (w.stores[place]?.map Store.reopen).getD .empty), { w with tree })

/-- The workspace with the store at a place replaced. -/
def withStore (w : Workspace) (place : Place) (s : Store) : Workspace :=
  { w with stores := w.stores.insert place s }

/-- Carries out accepted arguments. -/
def carryOut (w : Workspace) (args : Arguments) : Outcome × Workspace :=
  match args.registry w.files with
  | .error e => (.failed e, w)
  | .ok registry =>
    match w.openStore args.path with
    | (.error e, w) => (.failed e, w)
    | (.ok (place, s), w) =>
      let (outcome, s) := args.carryOut w.files registry s
      (outcome, w.withStore place s)

/-- Runs a command line. -/
def run (w : Workspace) (words : List String) : Outcome × Workspace :=
  match parse? words with
  | none => (.refused, w)
  | some args => w.carryOut args

end Workspace

end Strata.CommandLine
