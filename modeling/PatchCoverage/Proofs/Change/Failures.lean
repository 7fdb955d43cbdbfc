import PatchCoverage.Change.Source
import PatchCoverage.Proofs.Text.Utf8
import PatchCoverage.Proofs.World.Problems

namespace PatchCoverage

/-!
# Changes that cannot be listed

Whoever lists the changed files gets them or an error with a wording, but for two
things: a directory with a zero character in its name, and a `git` that prints
what is no text.  `IsUnlistable` is that exception; what `git` prints is looked at
before its exit status, so no status makes up for it.

The main statement is `answered_gitChanges_iff`.
-/

/-- Both refs are in order, and the directory has no name that can be asked for, or
`git` runs in it and prints what is no text. -/
def World.IsUnlistable (world : World) (directory : PathName) (base head : String) : Prop :=
  RefProblem.of? base = none ∧ RefProblem.of? head = none ∧
    (directory.hasZero = true ∨
      ∃ place entries reply, (world.locate directory >>= world.files.find) = .ok place ∧
        place.node = .directory entries ∧ world.git = some reply ∧
        ∀ text, reply.printed ≠ encodeUtf8 text)

theorem DiffError.exists_message_of_badDirectory {directory : String} {problem : FileProblem} :
    (∃ message, (DiffError.badDirectory directory problem).message? = some message) ↔
      problem ≠ .zeroCharacter := by
  cases problem <;> simp [DiffError.message?]

/-- What `git` did is answered for exactly if it printed a text. -/
theorem answered_diffOutcome_iff (base head : String) (reply : GitReply) :
    Answered DiffError.message? (diffOutcome base head reply) ↔
      ∃ text, reply.printed = encodeUtf8 text := by
  unfold diffOutcome
  cases hRead : decodeUtf8 reply.printed with
  | error fault =>
      -- The exit status is never looked at.
      refine iff_of_false ?_ ?_
      · rw [answered_error_iff]
        rintro ⟨message, hMessage⟩
        cases hMessage
      · rintro ⟨text, hText⟩
        rw [decodeUtf8_eq_ok_iff.mpr hText] at hRead
        cases hRead
  | ok text =>
      refine iff_of_true ?_ ⟨text, decodeUtf8_eq_ok_iff.mp hRead⟩
      exact .ite (answered_ok _) (answered_error_iff.mpr ⟨_, rfl⟩)

/-- The listing of changed files is answered for unless they are unlistable. -/
theorem answered_gitChanges_iff (world : World) (directory : PathName) (base head : String) :
    Answered DiffError.message? (world.gitChanges directory base head).outcome ↔
      ¬ world.IsUnlistable directory base head := by
  unfold World.gitChanges World.IsUnlistable
  cases hRefs : (RefProblem.of? base).or (RefProblem.of? head) with
  | some problem =>
      -- A ref that is refused has a wording, and nothing else is asked for.
      refine iff_of_true (answered_error_iff.mpr ⟨_, rfl⟩) ?_
      rintro ⟨hBase, hHead, -⟩
      rw [hBase, hHead] at hRefs
      cases hRefs
  | none =>
      obtain ⟨hBase, hHead⟩ := Option.or_eq_none_iff.mp hRefs
      have hZero : (world.locate directory >>= world.files.find) = .error .zeroCharacter ↔
          directory.hasZero = true :=
        World.locate_bind_eq_zeroCharacter_iff world.files.find_ne_zeroCharacter
      simp only [hBase, hHead, true_and]
      cases hPlace : world.locate directory >>= world.files.find with
      | error problem =>
          rw [hPlace, Except.error.injEq] at hZero
          dsimp only
          rw [answered_error_iff, DiffError.exists_message_of_badDirectory, ne_eq, hZero]
          simp
      | ok place =>
          rw [hPlace] at hZero
          have hNoZero : directory.hasZero ≠ true := fun h => nomatch hZero.mpr h
          obtain ⟨trail, node, above⟩ := place
          cases node with
          | file content => simp [answered_error_iff, DiffError.message?, hNoZero]
          | directory entries =>
              cases hGit : world.git with
              | none => simp [answered_error_iff, DiffError.message?, hNoZero]
              | some reply =>
                  dsimp only
                  rw [answered_diffOutcome_iff]
                  simp [hNoZero]

end PatchCoverage
