/-
Module: OneTimePassword.FileSystem.Basic
Purpose: A tree of files, directories and symbolic links, and the way along a path in it.
Main exports: FileSystem, FileSystem.lookup, FileSystem.insert, FileSystem.erase, FileSystem.walk,
  FileSystem.locate
-/
import OneTimePassword.Errno
import OneTimePassword.Text.Utf8

namespace OneTimePassword

/-- A place in the tree, by the names from the root down. It passes through no link. -/
abbrev Location := List String

namespace FileSystem

/-- What can be found at a place. -/
inductive Node where
  | file (mode : Nat) (content : Bytes)
  | directory
  | link (target : String)
deriving Repr, DecidableEq

end FileSystem

/-- The nodes below the root by their places, each place at most once. The root is a directory and
is not listed. It is the working directory as well, so a relative path leads where the absolute one
does. -/
structure FileSystem where
  entries : List (Location × FileSystem.Node)
deriving Repr, DecidableEq

namespace FileSystem

/-- A tree without anything below the root. -/
def empty : FileSystem := { entries := [] }

/-- The node at a place. -/
def lookup (fs : FileSystem) : Location → Option Node
  | [] => some .directory
  | location => fs.entries.lookup location

/-- The tree without the node at a place. -/
def erase (fs : FileSystem) (location : Location) : FileSystem :=
  { entries := fs.entries.filter (·.1 != location) }

/-- The tree with a node at a place, whatever was there before. -/
def insert (fs : FileSystem) (location : Location) (node : Node) : FileSystem :=
  { entries := (location, node) :: (fs.erase location).entries }

/-- The names of a path, from left to right. Empty ones count for nothing. -/
def namesOf (path : String) : List String :=
  ((path.toList.splitOn '/').filter (· ≠ [])).map String.ofList

/-- The most bytes of a name. -/
def maxNameLength : Nat := 255

/-- The most bytes of a path. -/
def maxPathLength : Nat := 4095

/-- The most links that are followed on the way along a path. -/
def maxLinks : Nat := 40

/-- The node of a name in a directory. -/
def child (fs : FileSystem) (here : Location) (name : String) : Except Errno (Option Node) :=
  if (Text.utf8 name).length > maxNameLength then .error .nameTooLong
  else .ok (fs.lookup (here ++ [name]))

/-- Where a link leads from: the root, or the directory that it lies in. -/
def linkStart (here : Location) (target : String) : Location :=
  if target.toList.head? = some '/' then [] else here

/-- Go along names that all have to lead to directories. At most `links` links are followed. -/
def walk (fs : FileSystem) (links : Nat) (here : Location) : List String → Except Errno Location
  | [] => .ok here
  | name :: rest =>
      if name = "." then walk fs links here rest
      else if name = ".." then walk fs links here.dropLast rest
      else
        match fs.child here name with
        | .error e => .error e
        | .ok none => .error .notFound
        | .ok (some (.file _ _)) => .error .notDirectory
        | .ok (some .directory) => walk fs links (here ++ [name]) rest
        | .ok (some (.link target)) =>
            match links with
            | 0 => .error .tooManyLinks
            | links + 1 => walk fs links (linkStart here target) (namesOf target ++ rest)
termination_by names => (links, names.length)

/-- The end of a path: a name in a directory that was reached. -/
structure Spot where
  directory : Location
  name : String
  /-- The path goes on with a slash, so only a directory is meant. -/
  endsInSlash : Bool
deriving Repr, DecidableEq

/-- The place that a spot names. -/
def Spot.location (spot : Spot) : Location := spot.directory ++ [spot.name]

/-- Go along a path up to its last name, which is not looked up. The root and the names `.` and `..`
are no names of nodes: for them the outcome is nothing. -/
def locate (fs : FileSystem) (path : String) : Except Errno (Option Spot) :=
  if path = "" then .error .notFound
  else if (Text.utf8 path).length > maxPathLength then .error .nameTooLong
  else
    let names := namesOf path
    match names.getLast? with
    | none => .ok none
    | some name => do
        let directory ← fs.walk maxLinks [] names.dropLast
        if name = "." || name = ".." then pure none
        else pure (some ⟨directory, name, path.toList.getLast? = some '/'⟩)

/-- The node at a spot. -/
def nodeAt (fs : FileSystem) (spot : Spot) : Except Errno (Option Node) :=
  fs.child spot.directory spot.name

end FileSystem

end OneTimePassword
