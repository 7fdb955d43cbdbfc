import PatchCoverage.Proofs.World.FileTree
import PatchCoverage.World.Basic

namespace PatchCoverage

/-!
# Writing a file

Writing puts octets in the place of those that a file has; a file that does not exist is
made.  It is the file that octets would be added to.

The main statement is `World.write_effect`: the same name is that of the file afterwards,
which has the octets that were written, and nothing else has changed.
-/

namespace FileTree

/-- A tree in which a file has the given octets; the file is made if it does not exist. -/
def write (tree : FileTree) (parts : List String) (octets : List UInt8) :
    Except FileProblem FileTree := do
  let (target, _) ← tree.appendTarget parts
  .ok (put (file octets) tree target)

variable {tree after : FileTree} {parts : List String} {octets : List UInt8}

/-- The octets that were written are those of the file, whatever parts led to it; nothing
else changes. -/
theorem write_effect (h : tree.write parts octets = .ok after) :
    ∃ target content, tree.appendTarget parts = .ok (target, content) ∧
      (∀ path, after.viewAt? path =
        if path = target then some (some octets) else tree.viewAt? path) ∧
      after.isFile parts = .ok true ∧ after.read parts = .ok octets := by
  obtain ⟨⟨target, content⟩, hAppend, hAfter⟩ := bind_eq_ok_iff.mp h
  obtain rfl := Except.ok.inj hAfter
  obtain ⟨hView, ⟨trail, node, above⟩, hFind, -, rfl⟩ :=
    (isTarget_of_appendTarget hAppend).put_effect octets
  refine ⟨target, content, hAppend, hView, ?_, ?_⟩
  · rw [isFile, hFind]
  · rw [read, hFind]
    rfl

end FileTree

namespace World

/-- The world after a file was written. -/
def write (world : World) (name : PathName) (octets : List UInt8) : Except FileProblem World :=
  world.locate name >>= fun parts =>
    (world.files.write parts octets).map fun files => { world with files }

variable {world after : World} {name : PathName} {octets : List UInt8}

/-- A name is that of a file once the file is written, and what is read under the name is
what was written.  Only the files have changed. -/
theorem write_effect (h : world.write name octets = .ok after) :
    after.isFile name = .ok true ∧ after.read name = .ok octets ∧
      after = { world with files := after.files } := by
  obtain ⟨parts, hLocate, hWrite⟩ := bind_eq_ok_iff.mp h
  obtain ⟨files, hFiles, rfl⟩ := map_eq_ok_iff.mp hWrite
  obtain ⟨target, content, -, -, hIsFile, hRead⟩ := FileTree.write_effect hFiles
  have hSame : { world with files }.locate name = .ok parts := hLocate
  refine ⟨?_, bind_eq_ok_iff.mpr ⟨parts, hSame, hRead⟩, rfl⟩
  rw [isFile, hSame]
  exact hIsFile

end World

end PatchCoverage
