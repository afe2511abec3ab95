import Strata.Text.Grid

/-!
# Paths

A path leads from the root or from the working directory to a file or directory, name by name. A
single dot stays where it is and two dots go up; what they mean depends on the tree, so they are
kept. A slash at the end asks for a directory.
-/

namespace Strata

/-- A path as it is written. -/
structure Path where
  /-- Whether the path begins at the root. -/
  fromRoot : Bool
  /-- The names on the way, dots included. -/
  names : List String
  /-- Whether the path ends in a slash. -/
  endsInSlash : Bool
  /-- The number of bytes that the path is written with. -/
  size : Nat
  deriving DecidableEq

namespace Path

/-- The greatest number of bytes of a path. -/
def maxSize : Nat := 4095

/-- The greatest number of bytes of a name. -/
def maxNameSize : Nat := 255

/-- The path that is written as a text. Slashes part names, however many stand together. -/
def ofString (s : String) : Path :=
  { fromRoot := s.toList.head? == some '/'
    names := ((Text.Grid.splitAt '/' s.toList).filter (!·.isEmpty)).map String.ofList
    endsInSlash := s.toList.getLast? == some '/'
    size := s.utf8ByteSize }

/-- The path of a name in the directory that a path leads to. -/
def child (p : Path) (name : String) : Path :=
  { fromRoot := p.fromRoot
    names := p.names ++ [name]
    endsInSlash := false
    size := p.size + (if p.endsInSlash then 0 else 1) + name.utf8ByteSize }

end Path

end Strata
