/-
Module: OneTimePassword.FileSystem.Calls
Purpose: The system calls that change a tree.
Main exports: FileSystem.createExclusive, FileSystem.appendTo, FileSystem.rename, FileSystem.unlink
-/
import OneTimePassword.FileSystem.Basic

namespace OneTimePassword.FileSystem

/-- Create an empty file where nothing is, not even a link that leads nowhere. -/
def createExclusive (fs : FileSystem) (path : String) (mode : Nat) :
    Except Errno (FileSystem × Location) := do
  match ← fs.locate path with
  | none => throw .exists
  | some spot =>
      if spot.endsInSlash then throw .isDirectory
      match ← fs.nodeAt spot with
      | some _ => throw .exists
      | none => pure (fs.insert spot.location (.file mode []), spot.location)

/-- Write at the end of an open file. -/
def appendTo (fs : FileSystem) (location : Location) (data : Bytes) : FileSystem :=
  match fs.lookup location with
  | some (.file mode content) => fs.insert location (.file mode (content ++ data))
  | _ => fs

/-- Move a node that is no directory to another path, in place of the file or link found there. -/
def rename (fs : FileSystem) (source target : String) : Except Errno FileSystem := do
  let source ← fs.locate source
  let target ← fs.locate target
  match source, target with
  | some source, some target =>
      match ← fs.nodeAt source with
      | none => throw .notFound
      | some node =>
          let replaced ← fs.nodeAt target
          if source.endsInSlash || target.endsInSlash then throw .notDirectory
          if replaced = some .directory then throw .isDirectory
          pure ((fs.erase source.location).insert target.location node)
  | _, _ => throw .busy

/-- Remove a file or a link. -/
def unlink (fs : FileSystem) (path : String) : Except Errno FileSystem := do
  match ← fs.locate path with
  | none => throw .isDirectory
  | some spot =>
      match ← fs.nodeAt spot with
      | none => throw .notFound
      | some .directory => throw .isDirectory
      | some _ =>
          if spot.endsInSlash then throw .notDirectory
          pure (fs.erase spot.location)

end OneTimePassword.FileSystem
