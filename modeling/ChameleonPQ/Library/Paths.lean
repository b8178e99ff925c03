/-
**One path of a file system.**

* `Place` — what stands at a path, beside the files a link there may lead to.
* `symlinkMetadata`, `readLink`, `read`, `removeFile`, `write`, `symlink` — the operations; each one fails
  when what it needs is not there, or for a reason of its own. A write that opened the file may break off.
* `replace` — a file written beside the path and renamed; `copy` — the file a copy makes.
* `setContent_eq_iff` — when a write leaves what was there.
* `removeFile_ok_iff`, `write_ok_iff`, `symlink_ok_iff` — when an operation succeeds, and what it leaves.
* `replace_fails` — a replacement that fails leaves what was there.
-/

import ChameleonPQ.Library.Octets
import Mathlib.Logic.Function.Basic

namespace Library.Paths

/-- What stands at a path. -/
inductive Node where
  | absent
  | file (bytes : Bytes)
  | symlink (target : String)
  deriving DecidableEq

/-- The kind of a node. -/
inductive Kind where
  | absent
  | file
  | symlink
  deriving DecidableEq

def Node.kind : Node → Kind
  | absent => .absent
  | file _ => .file
  | symlink _ => .symlink

/-- A path, and the files beside it by the targets that lead to them. -/
@[ext] structure Place where
  node : Node
  others : String → Option Bytes

/-- The text of an error of the system. -/
abbrev IoError := String

def notFound : IoError := "No such file or directory (os error 2)"

def fileExists : IoError := "File exists (os error 17)"

def invalidArgument : IoError := "Invalid argument (os error 22)"

/-- A write fails before the file is open, or after some octets. -/
inductive WriteFault where
  | unopened (e : IoError)
  | brokenOff (written : Nat) (e : IoError)
  deriving DecidableEq

/-- A replacement fails before the file beside the path is there, after some octets, or before the rename. -/
inductive ReplaceFault where
  | uncreated (e : IoError)
  | brokenOff (written : Nat) (e : IoError)
  | unplaced (e : IoError)
  deriving DecidableEq

namespace Place

section Operations

variable (place : Place)

/-- What opening the path reads. -/
def content : Option Bytes :=
  match place.node with
  | .absent => none
  | .file bytes => some bytes
  | .symlink target => place.others target

/-- Opening the path to write creates the file, and follows a link. -/
def setContent (bytes : Bytes) : Place :=
  match place.node with
  | .symlink target => { place with others := Function.update place.others target (some bytes) }
  | _ => { place with node := .file bytes }

/-- The node; a link is not followed. -/
def symlinkMetadata (fault : Option IoError) : Except IoError Node :=
  match fault, place.node with
  | some e, _ => .error e
  | none, .absent => .error notFound
  | none, node => .ok node

/-- The target of a link. -/
def readLink (fault : Option IoError) : Except IoError String :=
  match fault, place.node with
  | some e, _ => .error e
  | none, .symlink target => .ok target
  | none, .absent => .error notFound
  | none, .file _ => .error invalidArgument

/-- The whole content. -/
def read (fault : Option IoError) : Except IoError Bytes :=
  match fault with
  | some e => .error e
  | none => place.content.elim (.error notFound) .ok

/-- Takes the node away; a link is not followed. -/
def removeFile (fault : Option IoError) : Except IoError Unit × Place :=
  match fault, place.node with
  | some e, _ => (.error e, place)
  | none, .absent => (.error notFound, place)
  | none, _ => (.ok (), { place with node := .absent })

/-- Truncates or creates the file, and writes. -/
def write (fault : Option WriteFault) (bytes : Bytes) : Except IoError Unit × Place :=
  match fault with
  | some (.unopened e) => (.error e, place)
  | some (.brokenOff written e) => (.error e, place.setContent (bytes.take written))
  | none => (.ok (), place.setContent bytes)

/-- Writes a file beside the path and renames it, which takes the place of a link as well; with what is left
beside the path. -/
def replace (fault : Option ReplaceFault) (bytes : Bytes) : Except IoError Unit × Place × Option Bytes :=
  match fault with
  | some (.uncreated e) => (.error e, place, none)
  | some (.brokenOff written e) => (.error e, place, some (bytes.take written))
  | some (.unplaced e) => (.error e, place, some bytes)
  | none => (.ok (), { place with node := .file bytes }, none)

/-- What a copy to a new path makes there. -/
def copy (fault : Option WriteFault) : Except IoError Unit × Option Bytes :=
  match fault, place.content with
  | some (.unopened e), _ => (.error e, none)
  | _, none => (.error notFound, none)
  | some (.brokenOff written e), some bytes => (.error e, some (bytes.take written))
  | none, some bytes => (.ok (), some bytes)

/-- Makes a link, where nothing stands. -/
def symlink (fault : Option IoError) (target : String) : Except IoError Unit × Place :=
  match fault, place.node with
  | some e, _ => (.error e, place)
  | none, .absent => (.ok (), { place with node := .symlink target })
  | none, _ => (.error fileExists, place)

end Operations

variable {place after : Place}

/-- **A write leaves what was there** exactly when that is what it writes. -/
theorem setContent_eq_iff (bytes : Bytes) : place.setContent bytes = place ↔ place.content = some bytes := by
  obtain ⟨node, others⟩ := place
  cases node with
  | absent => simp [setContent, content]
  | file old => simp [setContent, content, eq_comm]
  | symlink target =>
    have shape : (Place.mk (.symlink target) others).setContent bytes =
        ⟨.symlink target, Function.update others target (some bytes)⟩ := rfl
    rw [shape, Place.mk.injEq, and_iff_right rfl, Function.update_eq_self_iff]
    exact eq_comm

/-- A file is created, or keeps its kind. -/
theorem setContent_node (bytes : Bytes) :
    (place.setContent bytes).node = if place.node.kind = .symlink then place.node else .file bytes := by
  obtain ⟨node, others⟩ := place
  cases node <;> rfl

/-- What was opened to write is there. -/
theorem setContent_node_ne_absent (bytes : Bytes) : (place.setContent bytes).node ≠ .absent := by
  obtain ⟨node, others⟩ := place
  cases node <;> simp [setContent]

/-- What was written is what is read. -/
theorem setContent_content (bytes : Bytes) : (place.setContent bytes).content = some bytes := by
  obtain ⟨node, others⟩ := place
  cases node <;> simp [setContent, content]

theorem removeFile_ok_iff {fault : Option IoError} : place.removeFile fault = (.ok (), after) ↔
    fault = none ∧ place.node ≠ .absent ∧ after = { place with node := .absent } := by
  obtain ⟨node, others⟩ := place
  cases fault <;> cases node <;> simp [removeFile, eq_comm]

theorem write_ok_iff {fault : Option WriteFault} {bytes : Bytes} :
    place.write fault bytes = (.ok (), after) ↔ fault = none ∧ after = place.setContent bytes := by
  rcases fault with _ | _ | _ <;> simp [write, eq_comm]

/-- **A replacement is whole**: one that fails leaves what was there. -/
theorem replace_fails {fault : Option ReplaceFault} (fails : fault ≠ none) (bytes : Bytes) :
    ∃ e left, place.replace fault bytes = (.error e, place, left) := by
  rcases fault with _ | _ | _ | _
  · exact absurd rfl fails
  all_goals exact ⟨_, _, rfl⟩

theorem copy_ok_iff {fault : Option WriteFault} (there : place.content.isSome = true) :
    (place.copy fault).1 = .ok () ↔ fault = none := by
  obtain ⟨bytes, content⟩ := Option.isSome_iff_exists.mp there
  rcases fault with _ | _ | _ <;> simp [copy, content]

theorem symlink_ok_iff {fault : Option IoError} {target : String} :
    place.symlink fault target = (.ok (), after) ↔
      fault = none ∧ place.node = .absent ∧ after = { place with node := .symlink target } := by
  obtain ⟨node, others⟩ := place
  cases fault <;> cases node <;> simp [symlink, eq_comm]

end Place

end Library.Paths
