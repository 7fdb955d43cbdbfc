import Mathlib.Data.List.Basic
import PatchCoverage.Proofs.Change.Refs

namespace PatchCoverage

/-!
# Which ranges have the same argument

A range between two refs is written with three dots between them, and no ref has two
dots in a row.  A base may still end with one dot, and a head begin with one, and then
the dots of the range and those of the ref run together.

`cutAtDots` reads a range back at its first three dots.  It gives back base and head
exactly if the base does not end with a dot; otherwise the last dot of the base is taken
for one of the range (`cutAtDots_refRange`).  What it reads is all that two ranges have
to share to be the same argument, which is how `range_read_back_iff` says which pairs of
refs are confused.
-/

/-- What stands before and after the first three dots in a row. -/
def cutAtDots : List Char → Option (List Char × List Char)
  | [] => none
  | c :: rest =>
    if ['.', '.', '.'] <+: c :: rest then some ([], rest.drop 2)
    else (cutAtDots rest).map fun (before, after) => (c :: before, after)

/-- A text whose last character is a dot. -/
def EndsWithDot (text : String) : Prop :=
  text.toList.getLast? = some '.'

instance : DecidablePred EndsWithDot :=
  fun text => inferInstanceAs (Decidable (text.toList.getLast? = some '.'))

/-- Before the first three dots stands what has no two dots and no dot at its end. -/
theorem cutAtDots_append {before : List Char} (after : List Char)
    (hDots : ¬ ['.', '.'] <:+: before) (hLast : before.getLast? ≠ some '.') :
    cutAtDots (before ++ '.' :: '.' :: '.' :: after) = some (before, after) := by
  induction before with
  | nil => simp [cutAtDots]
  | cons c rest ih =>
      have hRest : cutAtDots (rest ++ '.' :: '.' :: '.' :: after) = some (rest, after) := by
        apply ih
        · exact fun hInfix => hDots (hInfix.trans (List.suffix_cons c rest).isInfix)
        · intro hDot
          apply hLast
          rw [List.getLast?_cons, hDot, Option.getD_some]
      have hNotHere : ¬ ['.', '.', '.'] <+: c :: (rest ++ '.' :: '.' :: '.' :: after) := by
        rw [List.cons_prefix_cons]
        rintro ⟨rfl, hPrefix⟩
        -- The character is a dot, so the next one is not, and there is a next one.
        cases rest with
        | nil => exact hLast rfl
        | cons second rest =>
            obtain ⟨rfl, -⟩ := List.cons_prefix_cons.mp hPrefix
            exact hDots (List.prefix_append ['.', '.'] rest).isInfix
      rw [List.cons_append, cutAtDots, if_neg hNotHere, hRest, Option.map_some]

section Ranges

variable {base head other tip : String}

theorem toList_refRange (base head : String) :
    (refRange base head).toList = base.toList ++ '.' :: '.' :: '.' :: head.toList := by
  simp [refRange]

/-- A range is read back, except that a dot at the end of the base goes to the head. -/
theorem cutAtDots_refRange (hBase : IsRef base) (head : String) :
    cutAtDots (refRange base head).toList =
      if EndsWithDot base then some (base.toList.dropLast, '.' :: head.toList)
      else some (base.toList, head.toList) := by
  rw [toList_refRange]
  split
  · next hDot =>
    obtain ⟨start, hStart⟩ := List.getLast?_eq_some_iff.mp hDot
    have hInfix := hBase.noRange
    rw [hStart] at hInfix
    -- The start is read up to the dot of the base, since another dot before it would make two.
    have hLast : start.getLast? ≠ some '.' := by
      intro hSecond
      obtain ⟨front, rfl⟩ := List.getLast?_eq_some_iff.mp hSecond
      apply hInfix
      rw [List.append_assoc]
      exact (List.suffix_append front ['.', '.']).isInfix
    have hDots : ¬ ['.', '.'] <:+: start :=
      fun hMore => hInfix (hMore.trans (List.prefix_append start ['.']).isInfix)
    rw [hStart, List.append_assoc, List.singleton_append, List.dropLast_concat]
    exact cutAtDots_append ('.' :: head.toList) hDots hLast
  · next hDot => exact cutAtDots_append head.toList hBase.noRange hDot

/-- What stands before the dot at the end of a text. -/
theorem eq_append_dot {text start : String} (hDot : EndsWithDot text)
    (hStart : text.toList.dropLast = start.toList) : text = start ++ "." := by
  rw [← String.toList_inj, String.toList_append, ← hStart]
  exact (List.dropLast_append_getLast? _ hDot).symm

/-- Ranges are the same text exactly if their refs are the same, or are the same but for
one dot that stands at the end of the one base and at the start of the other head. -/
theorem refRange_eq_iff (hBase : IsRef base) (hOther : IsRef other) (head tip : String) :
    refRange base head = refRange other tip ↔
      base = other ∧ head = tip ∨
        base = other ++ "." ∧ tip = "." ++ head ∨ other = base ++ "." ∧ head = "." ++ tip := by
  have hDotted {first second : String} (h : '.' :: first.toList = second.toList) :
      second = "." ++ first := by
    rw [← String.toList_inj, String.toList_append, ← h]
    rfl
  constructor
  · intro hSame
    have hCut := congrArg (fun range => cutAtDots range.toList) hSame
    simp only [cutAtDots_refRange hBase, cutAtDots_refRange hOther] at hCut
    split at hCut <;> split at hCut <;>
      obtain ⟨hBefore, hAfter⟩ := Prod.mk.inj (Option.some.inj hCut)
    · next hDot hOtherDot =>
      refine .inl ⟨?_, String.toList_inj.mp (List.cons.inj hAfter).2⟩
      have hStart : other.toList.dropLast = (String.ofList other.toList.dropLast).toList :=
        String.toList_ofList.symm
      rw [eq_append_dot hDot (hBefore.trans hStart), ← eq_append_dot hOtherDot hStart]
    · next hDot _ => exact .inr (.inl ⟨eq_append_dot hDot hBefore, hDotted hAfter⟩)
    · next _ hOtherDot =>
      exact .inr (.inr ⟨eq_append_dot hOtherDot hBefore.symm, hDotted hAfter.symm⟩)
    · exact .inl ⟨String.toList_inj.mp hBefore, String.toList_inj.mp hAfter⟩
  · rintro (⟨rfl, rfl⟩ | ⟨rfl, rfl⟩ | ⟨rfl, rfl⟩)
    · rfl
    · simp [← String.toList_inj, toList_refRange]
    · simp [← String.toList_inj, toList_refRange]

end Ranges

/-- The argument that `git` is given for two refs is cut into these refs at its first
three dots exactly if the base does not end with a dot.  Other refs have the same
argument exactly if a dot has moved between the end of the base and the start of the
head. -/
theorem range_read_back_iff {base : String} (hBase : RefProblem.of? base = none)
    (head : String) :
    (cutAtDots (refRange base head).toList = some (base.toList, head.toList) ↔
        ¬ EndsWithDot base) ∧
      ∀ other tip, RefProblem.of? other = none →
        (diffArguments base head = diffArguments other tip ↔
          base = other ∧ head = tip ∨
            base = other ++ "." ∧ tip = "." ++ head ∨
              other = base ++ "." ∧ head = "." ++ tip) := by
  have hRef := (RefProblem.of?_eq_none_iff base).mp hBase
  constructor
  · rw [cutAtDots_refRange hRef]
    split
    · next hDot =>
      refine iff_of_false ?_ (not_not.mpr hDot)
      intro hCut
      -- A head is never itself with a dot in front.
      obtain ⟨-, hAfter⟩ := Prod.mk.inj (Option.some.inj hCut)
      exact List.cons_ne_self '.' head.toList hAfter
    · next hDot => exact iff_of_true rfl hDot
  · intro other tip hOther
    rw [← refRange_eq_iff hRef ((RefProblem.of?_eq_none_iff other).mp hOther)]
    simp [diffArguments]

/-- Two branches whose names differ by one dot each. -/
def dottedBranches : (String × String) × String × String :=
  (("release.", "topic"), ("release", ".topic"))

/-- The dot at the end of the one base is taken for one of the range. -/
theorem range_read_back_of_dottedBranches :
    RefProblem.of? dottedBranches.1.1 = none ∧ EndsWithDot dottedBranches.1.1 ∧
      cutAtDots (refRange dottedBranches.1.1 dottedBranches.1.2).toList ≠
        some (dottedBranches.1.1.toList, dottedBranches.1.2.toList) ∧
      diffArguments dottedBranches.1.1 dottedBranches.1.2 =
        diffArguments dottedBranches.2.1 dottedBranches.2.2 := by
  have hBase : RefProblem.of? dottedBranches.1.1 = none := by decide
  have hOther : RefProblem.of? dottedBranches.2.1 = none := by decide
  have hDot : EndsWithDot dottedBranches.1.1 := by decide
  obtain ⟨hCut, hSame⟩ := range_read_back_iff hBase dottedBranches.1.2
  refine ⟨hBase, hDot, fun h => hCut.mp h hDot, ?_⟩
  exact (hSame _ _ hOther).mpr (.inr (.inl ⟨by decide, by decide⟩))

/-- Refs that are accepted can have the same range, and need not be read back from it. -/
theorem range_ambiguous :
    (¬ ∀ base head other tip : String,
      RefProblem.of? base = none → RefProblem.of? head = none →
        RefProblem.of? other = none → RefProblem.of? tip = none →
          refRange base head = refRange other tip → base = other ∧ head = tip) ∧
      ¬ ∀ base head : String, RefProblem.of? base = none → RefProblem.of? head = none →
        cutAtDots (refRange base head).toList = some (base.toList, head.toList) := by
  constructor
  · intro hUnambiguous
    have hSame := hUnambiguous "release." "topic" "release" ".topic" (by decide) (by decide)
      (by decide) (by decide) (by decide)
    exact absurd hSame (by decide)
  · intro hReadBack
    have hCut := hReadBack "release." "topic" (by decide) (by decide)
    exact absurd hCut (by decide)

end PatchCoverage
