import Mathlib.Logic.Basic
import Mathlib.Tactic.ByContra
import PatchCoverage.Change.Source

namespace PatchCoverage

/-!
# Refs that `git` is given

`IsRef` is the grammar of a ref, without the order in which its rules are checked: a
ref is refused exactly if it is not in the grammar (`RefProblem.of?_eq_none_iff`).
The range between two refs of the grammar is safe as an argument: nothing takes it
for an option, and it has no blank and no control character.

`git` is asked for changes exactly if both refs are in the grammar, whether or not
there is such a program and it can run where it is asked to
(`attemptsStart_gitChanges_iff`).
-/

/-- A text that may name a commit. -/
structure IsRef (ref : String) : Prop where
  nonempty : 1 ≤ ref.length
  short : ref.length ≤ 255
  characters : ∀ c ∈ ref.toList,
    0x20 < c.toNat ∧ c ≠ '\x7f' ∧ c ∉ ['~', '^', ':', '?', '*', '[', '\\']
  noDash : ¬ ['-'] <+: ref.toList
  noRange : ¬ ['.', '.'] <:+: ref.toList
  noSelector : ¬ ['@', '\x7b'] <:+: ref.toList

namespace RefProblem

theorem holdsPair_eq_true_iff (first second : Char) (characters : List Char) :
    holdsPair first second characters = true ↔ [first, second] <:+: characters := by
  fun_induction holdsPair first second characters with
  | case1 a b rest ih =>
      rw [List.infix_cons_iff, ← ih, List.cons_prefix_cons, List.cons_prefix_cons,
        Bool.or_eq_true, Bool.and_eq_true, beq_iff_eq, beq_iff_eq]
      exact or_congr_left
        ⟨fun ⟨hFirst, hSecond⟩ => ⟨hFirst.symm, hSecond.symm, List.nil_prefix⟩,
          fun ⟨hFirst, hSecond, _⟩ => ⟨hFirst.symm, hSecond.symm⟩⟩
  | case2 characters hShort =>
      refine iff_of_false (by simp) ?_
      intro hInfix
      have hLength := hInfix.length_le
      match characters with
      | [] => simp at hLength
      | [_] => simp at hLength
      | a :: b :: rest => exact hShort a b rest rfl

theorem isUnsafe_eq_false_iff (c : Char) :
    isUnsafe c = false ↔
      0x20 < c.toNat ∧ c ≠ '\x7f' ∧ c ∉ ['~', '^', ':', '?', '*', '[', '\\'] := by
  have hDelete : c.toNat = 0x7f ↔ c = '\x7f' := by
    constructor
    · exact fun hCode => Char.toNat_inj.mp hCode
    · rintro rfl
      rfl
  have hOperators : "~^:?*[\\".toList = ['~', '^', ':', '?', '*', '[', '\\'] := by decide
  rw [isUnsafe, hOperators, Bool.or_eq_false_iff, Bool.or_eq_false_iff, decide_eq_false_iff_not,
    beq_eq_false_iff_ne, ne_eq, hDelete, Nat.not_le, and_assoc]
  simp

/-- Of rules that are checked one after the other none is broken. -/
theorem ite_some_eq_none_iff {α : Type} {broken : Prop} [Decidable broken] {problem : α}
    {others : Option α} :
    (if broken then some problem else others) = none ↔ ¬ broken ∧ others = none := by
  split <;> simp [*]

/-- A ref is accepted exactly if it is in the grammar. -/
theorem of?_eq_none_iff (ref : String) : of? ref = none ↔ IsRef ref := by
  have hLength : ref.toList.length = ref.length := String.length_toList
  have hEmpty : ref.toList.isEmpty = true ↔ ref.toList.length = 0 := by
    rw [List.isEmpty_iff, List.length_eq_zero_iff]
  have hUnsafe : ref.toList.any isUnsafe = true ↔ ¬ ∀ c ∈ ref.toList,
      0x20 < c.toNat ∧ c ≠ '\x7f' ∧ c ∉ ['~', '^', ':', '?', '*', '[', '\\'] := by
    simp only [← isUnsafe_eq_false_iff, List.any_eq_true, not_forall, Bool.not_eq_false,
      exists_prop]
  have hDash : (ref.toList.head? == some '-') = true ↔ ['-'] <+: ref.toList := by
    cases ref.toList with
    | nil => simp
    | cons c rest =>
        rw [List.head?_cons, beq_iff_eq, Option.some.injEq, List.cons_prefix_cons]
        exact ⟨fun hSame => ⟨hSame.symm, List.nil_prefix⟩, fun hBoth => hBoth.1.symm⟩
  unfold of?
  dsimp only
  rw [ite_some_eq_none_iff, ite_some_eq_none_iff, ite_some_eq_none_iff, ite_some_eq_none_iff,
    ite_some_eq_none_iff, ite_some_eq_none_iff, holdsPair_eq_true_iff, holdsPair_eq_true_iff,
    hEmpty, hUnsafe, hDash, hLength, not_not, lengthLimit]
  constructor
  · rintro ⟨hNonempty, hShort, hCharacters, hSelector, hStart, hRange, -⟩
    exact ⟨Nat.one_le_iff_ne_zero.mpr hNonempty, Nat.not_lt.mp hShort, hCharacters, hStart,
      hRange, hSelector⟩
  · rintro ⟨hNonempty, hShort, hCharacters, hStart, hRange, hSelector⟩
    exact ⟨Nat.one_le_iff_ne_zero.mp hNonempty, Nat.not_lt.mpr hShort, hCharacters, hSelector,
      hStart, hRange, rfl⟩

end RefProblem

/-! ## Arguments -/

/-- A text that is safe as an argument: nothing takes it for an option, and it has no
blank and no control character of ASCII. -/
structure IsSafeArgument (argument : String) : Prop where
  noOption : argument.toList.head? ≠ some '-'
  characters : ∀ c ∈ argument.toList, 0x20 < c.toNat ∧ c ≠ '\x7f'

/-- A range between two refs is safe as an argument. -/
theorem isSafeArgument_refRange {base head : String} (hBase : IsRef base) (hHead : IsRef head) :
    IsSafeArgument (refRange base head) := by
  have hParts : (refRange base head).toList = base.toList ++ (['.', '.', '.'] ++ head.toList) := by
    simp [refRange]
  refine ⟨?_, ?_⟩
  · rw [hParts]
    intro hOption
    cases hFirst : base.toList with
    | nil =>
        rw [hFirst] at hOption
        cases hOption
    | cons c rest =>
        rw [hFirst] at hOption
        obtain rfl := Option.some.inj hOption
        exact hBase.noDash (hFirst ▸ List.cons_prefix_cons.mpr ⟨rfl, List.nil_prefix⟩)
  · have hOf {ref : String} (hRef : IsRef ref) : ∀ c ∈ ref.toList, 0x20 < c.toNat ∧ c ≠ '\x7f' :=
      fun c hMem => ⟨(hRef.characters c hMem).1, (hRef.characters c hMem).2.1⟩
    have hDots : ∀ c ∈ ['.', '.', '.'], 0x20 < c.toNat ∧ c ≠ '\x7f' := by simp
    rw [hParts]
    exact List.forall_mem_append.mpr
      ⟨hOf hBase, List.forall_mem_append.mpr ⟨hDots, hOf hHead⟩⟩

/-! ## Asking `git` -/

/-- `git` was to be started, and could not be. -/
def DiffError.IsStartFailure : DiffError → Prop
  | noProgram => True
  | badDirectory _ _ => True
  | _ => False

/-- `git` was asked for changes: it was started, or could not be. -/
def DiffRun.AttemptsStart (run : DiffRun) : Prop :=
  run.start?.isSome = true ∨ ∃ error, run.outcome = .error error ∧ error.IsStartFailure

namespace World

/-- There is a program `git`, and a directory of the given name for it to run in. -/
def CanStartGit (world : World) (directory : PathName) : Prop :=
  world.git.isSome = true ∧ ∃ place entries,
    (world.locate directory >>= world.files.find) = .ok place ∧ place.node = .directory entries

section Changes

variable (world : World) (directory : PathName) {base head : String}

/-- With a ref outside the grammar nothing is started, and the ref is what is wrong. -/
theorem gitChanges_of_not_isRef (h : ¬ (IsRef base ∧ IsRef head)) :
    ∃ problem, world.gitChanges directory base head = ⟨none, .error (.badRef problem)⟩ := by
  rw [← RefProblem.of?_eq_none_iff, ← RefProblem.of?_eq_none_iff, ← Option.or_eq_none_iff,
    ← ne_eq, Option.ne_none_iff_exists'] at h
  obtain ⟨problem, hProblem⟩ := h
  refine ⟨problem, ?_⟩
  unfold gitChanges
  rw [hProblem]

variable (hBase : IsRef base) (hHead : IsRef head)

include hBase hHead

theorem or_of_isRef : (RefProblem.of? base).or (RefProblem.of? head) = none :=
  Option.or_eq_none_iff.mpr
    ⟨(RefProblem.of?_eq_none_iff base).mpr hBase, (RefProblem.of?_eq_none_iff head).mpr hHead⟩

/-- With two refs `git` is started, once, or there is no way to start it. -/
theorem start?_gitChanges_of_isRef :
    (∃ place reply, world.gitChanges directory base head =
        ⟨some ⟨place, ["diff", "--name-only", base ++ "..." ++ head]⟩,
          diffOutcome base head reply⟩ ∧ world.CanStartGit directory) ∨
      ∃ error, world.gitChanges directory base head = ⟨none, .error error⟩ ∧
        error.IsStartFailure ∧ ¬ world.CanStartGit directory := by
  unfold gitChanges CanStartGit
  rw [or_of_isRef hBase hHead]
  dsimp only
  cases hPlace : world.locate directory >>= world.files.find with
  | error problem => exact .inr ⟨_, rfl, trivial, fun ⟨_, _, _, hFound, _⟩ => nomatch hFound⟩
  | ok place =>
      obtain ⟨trail, node, above⟩ := place
      cases node with
      | file content =>
          refine .inr ⟨_, rfl, trivial, ?_⟩
          rintro ⟨-, place, entries, hFound, hNode⟩
          obtain rfl := Except.ok.inj hFound
          cases hNode
      | directory entries =>
          cases hGit : world.git with
          | none => exact .inr ⟨_, rfl, trivial, fun h => nomatch h.1⟩
          | some reply => exact .inl ⟨_, reply, rfl, rfl, _, entries, rfl, rfl⟩

end Changes

/-- `git` is asked for changes exactly if both refs are in the grammar. -/
theorem attemptsStart_gitChanges_iff (world : World) (directory : PathName) (base head : String) :
    (world.gitChanges directory base head).AttemptsStart ↔ IsRef base ∧ IsRef head := by
  constructor
  · intro h
    by_contra hRefs
    obtain ⟨problem, hRun⟩ := world.gitChanges_of_not_isRef directory hRefs
    rw [hRun] at h
    rcases h with hStart | ⟨error, hError, hFailure⟩
    · cases hStart
    · obtain rfl := Except.error.inj hError
      exact hFailure
  · rintro ⟨hBase, hHead⟩
    rcases world.start?_gitChanges_of_isRef directory hBase hHead with
      ⟨place, reply, hRun, -⟩ | ⟨error, hRun, hFailure, -⟩
    · exact .inl (by rw [hRun]; rfl)
    · exact .inr ⟨error, by rw [hRun], hFailure⟩

end World

end PatchCoverage
