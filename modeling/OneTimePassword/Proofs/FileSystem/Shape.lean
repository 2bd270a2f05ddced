/-
Module: OneTimePassword.Proofs.FileSystem.Shape
Purpose: A tree without the content of its files, which is all that paths and calls go by.
Main exports: FileSystem.shape, FileSystem.lookup_shape, FileSystem.locate_shape,
  FileSystem.createExclusive_shape, FileSystem.shape_appendTo, FileSystem.rename_shape,
  FileSystem.unlink_shape
-/
import OneTimePassword.Proofs.FileSystem.Place

namespace OneTimePassword.FileSystem

variable {fs : FileSystem} {location : Location} {node : Node}

/-- A node without its content. -/
def Node.emptied : Node → Node
  | .file mode _ => .file mode []
  | .directory => .directory
  | .link target => .link target

/-- The tree with all its files emptied. -/
def shape (fs : FileSystem) : FileSystem :=
  { entries := fs.entries.map fun entry => (entry.1, entry.2.emptied) }

@[simp] theorem Node.emptied_eq_directory_iff : node.emptied = .directory ↔ node = .directory := by
  cases node <;> simp [emptied]

/-! ### Nodes -/

theorem lookup_shape (fs : FileSystem) (location : Location) :
    fs.shape.lookup location = (fs.lookup location).map Node.emptied := by
  cases location with
  | nil => rfl
  | cons name names =>
      change (fs.entries.map _).lookup _ = (fs.entries.lookup _).map _
      induction fs.entries with
      | nil => rfl
      | cons entry rest ih =>
          rw [List.map_cons, List.lookup_cons, List.lookup_cons, ih]
          cases (name :: names == entry.1) with
          | true => rfl
          | false => rfl

theorem shape_erase (fs : FileSystem) (location : Location) :
    (fs.erase location).shape = fs.shape.erase location := by
  simp only [shape, erase, List.filter_map]
  rfl

theorem shape_insert (fs : FileSystem) (location : Location) (node : Node) :
    (fs.insert location node).shape = fs.shape.insert location node.emptied := by
  have herase := congrArg entries (shape_erase fs location)
  simp only [shape, insert, List.map_cons] at herase ⊢
  rw [herase]

theorem child_shape (fs : FileSystem) (here : Location) (name : String) :
    fs.shape.child here name = (fs.child here name).map (·.map Node.emptied) := by
  unfold child
  split
  · rfl
  · rw [lookup_shape]
    rfl

/-! ### Paths -/

/-- The content of files is on no way. -/
theorem walk_shape (fs : FileSystem) (links : Nat) (here : Location) (names : List String) :
    fs.shape.walk links here names = fs.walk links here names := by
  fun_induction fs.walk links here names with
  | case1 => rw [walk]
  | case2 links here rest ih => simpa [walk] using ih
  | case3 links here rest hdot ih => simpa [walk] using ih
  | case4 links here name rest hdot hdots e hchild =>
      rw [walk, if_neg hdot, if_neg hdots, child_shape, hchild]
      rfl
  | case5 links here name rest hdot hdots hchild =>
      rw [walk, if_neg hdot, if_neg hdots, child_shape, hchild]
      rfl
  | case6 links here name rest hdot hdots mode content hchild =>
      rw [walk, if_neg hdot, if_neg hdots, child_shape, hchild]
      rfl
  | case7 links here name rest hdot hdots hchild ih =>
      rw [walk, if_neg hdot, if_neg hdots, child_shape, hchild]
      exact ih
  | case8 here name rest hdot hdots target hchild =>
      rw [walk, if_neg hdot, if_neg hdots, child_shape, hchild]
      rfl
  | case9 here name rest hdot hdots target hchild links ih =>
      rw [walk, if_neg hdot, if_neg hdots, child_shape, hchild]
      exact ih

theorem locate_shape (fs : FileSystem) (path : String) : fs.shape.locate path = fs.locate path := by
  simp only [locate, walk_shape]

theorem nodeAt_shape (fs : FileSystem) (spot : Spot) :
    fs.shape.nodeAt spot = (fs.nodeAt spot).map (·.map Node.emptied) :=
  child_shape fs spot.directory spot.name

/-! ### Calls -/

theorem createExclusive_shape (fs : FileSystem) (path : String) (mode : Nat) :
    fs.shape.createExclusive path mode =
      (fs.createExclusive path mode).map fun created => (created.1.shape, created.2) := by
  unfold createExclusive
  rw [locate_shape]
  cases fs.locate path with
  | error e => rfl
  | ok found =>
      cases found with
      | none => rfl
      | some spot =>
          simp only [bind, Except.bind, nodeAt_shape]
          cases spot.endsInSlash with
          | true => rfl
          | false =>
              cases fs.nodeAt spot with
              | error e => rfl
              | ok occupant =>
                  cases occupant with
                  | none =>
                      simp [pure, Except.pure, Except.map, shape_insert, Node.emptied]
                  | some node => rfl

/-- What is written goes into a file that is there already. -/
theorem shape_appendTo (fs : FileSystem) (location : Location) (data : Bytes) :
    (fs.appendTo location data).shape = fs.shape.appendTo location [] := by
  unfold appendTo
  rw [lookup_shape]
  cases fs.lookup location with
  | none => rfl
  | some node =>
      cases node with
      | file mode content => exact shape_insert fs location _
      | directory => rfl
      | link target => rfl

theorem rename_shape (fs : FileSystem) (source target : String) :
    fs.shape.rename source target = (fs.rename source target).map shape := by
  unfold rename
  rw [locate_shape, locate_shape]
  cases fs.locate source with
  | error e => rfl
  | ok source =>
      cases fs.locate target with
      | error e => rfl
      | ok target =>
          rcases source with _ | source
          · rfl
          rcases target with _ | target
          · rfl
          simp only [bind, Except.bind, nodeAt_shape]
          cases fs.nodeAt source with
          | error e => rfl
          | ok node =>
              rcases node with _ | node
              · rfl
              simp only [Except.map, Option.map_some]
              cases fs.nodeAt target with
              | error e => rfl
              | ok replaced =>
                  have hkind : replaced.map Node.emptied = some .directory ↔
                      replaced = some .directory := by
                    cases replaced <;> simp
                  simp only [hkind]
                  split
                  · rfl
                  · split
                    · rfl
                    · simp [pure, Except.pure, shape_insert, shape_erase]

theorem unlink_shape (fs : FileSystem) (path : String) :
    fs.shape.unlink path = (fs.unlink path).map shape := by
  unfold unlink
  rw [locate_shape]
  cases fs.locate path with
  | error e => rfl
  | ok found =>
      cases found with
      | none => rfl
      | some spot =>
          simp only [bind, Except.bind, nodeAt_shape]
          cases fs.nodeAt spot with
          | error e => rfl
          | ok occupant =>
              rcases occupant with _ | node
              · rfl
              cases node with
              | directory => rfl
              | file mode content =>
                  cases spot.endsInSlash with
                  | true => rfl
                  | false => exact congrArg Except.ok (shape_erase fs _).symm
              | link target =>
                  cases spot.endsInSlash with
                  | true => rfl
                  | false => exact congrArg Except.ok (shape_erase fs _).symm

end OneTimePassword.FileSystem
