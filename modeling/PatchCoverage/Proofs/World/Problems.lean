import PatchCoverage.Proofs.Failure
import PatchCoverage.World.Basic

namespace PatchCoverage

/-!
# Problems with names

Whoever reads or looks for a file learns of a problem with its name.  A name with
a zero character is the only one with the problem `zeroCharacter`, since no part
of the file system gives that answer itself, and a question whether a name is
that of a file fails for names that are too long only.
-/

namespace FileTree

/-- The way through the file system never meets a zero character. -/
theorem walk_ne_zeroCharacter (place : Place) (parts : List String) :
    walk place parts ≠ .error .zeroCharacter := by
  fun_induction walk place parts
  all_goals first
    | assumption
    | exact nofun

theorem find_ne_zeroCharacter (tree : FileTree) (parts : List String) :
    tree.find parts ≠ .error .zeroCharacter :=
  walk_ne_zeroCharacter _ parts

theorem read_ne_zeroCharacter (tree : FileTree) (parts : List String) :
    tree.read parts ≠ .error .zeroCharacter := by
  refine bind_ne_error (find_ne_zeroCharacter tree parts) fun place => ?_
  cases place.node <;> exact nofun

end FileTree

namespace World

variable {α : Type} {world : World} {name : PathName}

/-- The problem of a zero character is that of the name. -/
theorem locate_bind_eq_zeroCharacter_iff {next : List String → Except FileProblem α}
    (hNext : ∀ parts, next parts ≠ .error .zeroCharacter) :
    (world.locate name >>= next) = .error .zeroCharacter ↔ name.hasZero = true := by
  unfold locate
  by_cases hZero : name.hasZero = true
  · rw [if_pos hZero]
    exact iff_of_true rfl hZero
  · rw [if_neg hZero]
    refine iff_of_false ?_ hZero
    split
    · exact nofun
    · exact hNext _

theorem read_eq_zeroCharacter_iff :
    world.read name = .error .zeroCharacter ↔ name.hasZero = true :=
  locate_bind_eq_zeroCharacter_iff world.files.read_ne_zeroCharacter

/-- Whether a name is that of a file is answered, unless the name is too long. -/
theorem exists_isFile_or (world : World) (name : PathName) :
    (∃ answer, world.isFile name = .ok answer) ∨ world.isFile name = .error .nameTooLong := by
  unfold isFile FileTree.isFile
  split
  · split
    · exact .inl ⟨_, rfl⟩
    · exact .inl ⟨_, rfl⟩
    · exact .inr rfl
    · exact .inl ⟨_, rfl⟩
  · exact .inr rfl
  · exact .inl ⟨_, rfl⟩

end World

end PatchCoverage
