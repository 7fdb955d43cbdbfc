import Mathlib.Data.List.Infix
import PatchCoverage.Text.Lines

namespace PatchCoverage

/-!
# Texts that are cut at a token

A token of several characters can occur across the place where two texts meet, even if
it occurs in neither.  It cannot if one of the two characters that meet there is not in
the token.  So a text that is put together from pieces without the token has none if
every piece meets the next one with such a character, and a text in which a token
follows every piece is cut into these pieces.
-/

/-- The pieces of a text between the occurrences of a token, the leftmost first; `piece`
holds the current one, last character first. -/
def cutFrom (token piece : List Char) : List Char → List (List Char)
  | [] => [piece.reverse]
  | c :: rest =>
    if token ≠ [] ∧ token <+: c :: rest then
      piece.reverse :: cutFrom token [] ((c :: rest).drop token.length)
    else
      cutFrom token (c :: piece) rest
termination_by characters => characters.length
decreasing_by
  · have hToken := List.length_pos_iff.mpr (‹_ ∧ _› : token ≠ [] ∧ _).1
    simp only [List.length_drop, List.length_cons]
    omega
  · simp

/-- The pieces of a text between the occurrences of a token. -/
def cutAt (token text : String) : List String :=
  (cutFrom token.toList [] text.toList).map String.ofList

section Token

variable {token front back piece rest : List Char}

/-- A token is in two texts put together only if it is in one of them or both characters
that meet are in the token. -/
theorem not_infix_append (hFront : ¬ token <:+: front) (hBack : ¬ token <:+: back)
    (hMeet : (∀ c ∈ front.getLast?, c ∉ token) ∨ ∀ c ∈ back.head?, c ∉ token) :
    ¬ token <:+: front ++ back := by
  rintro ⟨before, after, hText⟩
  rcases List.append_eq_append_iff.mp hText with ⟨between, hIn, -⟩ | ⟨second, hSplit, hBehind⟩
  · exact hFront ⟨before, between, hIn.symm⟩
  rcases List.append_eq_append_iff.mp hSplit with ⟨first, hBefore, hToken⟩ | ⟨between, -, hIn⟩
  · -- The token is `first`, at the end of the front, and `second`, at the start of the back.
    rcases List.eq_nil_or_concat' first with rfl | ⟨others, last, rfl⟩
    · exact hBack ⟨[], after, by rw [hBehind, hToken]; rfl⟩
    cases second with
    | nil => exact hFront ⟨before, [], by rw [hBefore, hToken]; simp⟩
    | cons c second =>
        rcases hMeet with hLast | hHead
        · exact hLast last (by simp [hBefore]) (by simp [hToken])
        · exact hHead c (by simp [hBehind]) (by simp [hToken])
  · exact hBack ⟨between, after, by rw [hBehind, hIn]⟩

theorem cutFrom_of_not_prefix {c : Char} (h : ¬ token <+: c :: rest) :
    cutFrom token piece (c :: rest) = cutFrom token (c :: piece) rest := by
  rw [cutFrom, if_neg fun hBoth => h hBoth.2]

theorem cutFrom_token (hToken : token ≠ []) :
    cutFrom token piece (token ++ rest) = piece.reverse :: cutFrom token [] rest := by
  obtain ⟨c, others, rfl⟩ := List.exists_cons_of_ne_nil hToken
  have hPrefix : c :: others <+: c :: (others ++ rest) := ⟨rest, rfl⟩
  rw [List.cons_append, cutFrom, if_pos ⟨hToken, hPrefix⟩, ← List.cons_append, List.drop_left]

/-- A text is cut behind a piece that neither has the token nor ends in a character of
it. -/
theorem cutFrom_append (hToken : token ≠ []) (hFront : ¬ token <:+: front)
    (hLast : ∀ c ∈ front.getLast?, c ∉ token) :
    cutFrom token piece (front ++ (token ++ rest)) =
      (piece.reverse ++ front) :: cutFrom token [] rest := by
  induction front generalizing piece with
  | nil => rw [List.nil_append, cutFrom_token hToken, List.append_nil]
  | cons c front ih =>
      have hNone : ¬ token <+: c :: (front ++ (token ++ rest)) := by
        intro hPrefix
        rcases List.prefix_or_prefix_of_prefix hPrefix (List.prefix_append (c :: front) _) with
          hIn | hAll
        · exact hFront hIn.isInfix
        · have hSome : c :: front ≠ [] := List.cons_ne_nil c front
          exact hLast _ (List.getLast?_eq_some_getLast hSome)
            (hAll.subset (List.getLast_mem hSome))
      have hTail : ∀ d ∈ front.getLast?, d ∉ token := by
        intro d hD
        refine hLast d ?_
        cases front with
        | nil => cases hD
        | cons second front => rwa [List.getLast?_cons_cons]
      rw [List.cons_append, cutFrom_of_not_prefix hNone,
        ih (fun hIn => hFront (hIn.trans (List.suffix_cons c front).isInfix)) hTail,
        List.reverse_cons, List.append_assoc, List.singleton_append]

end Token

/-- Pieces with a token behind each are found again, with nothing behind the last. -/
theorem cutAt_join {token : String} {pieces : List String} (hToken : token ≠ "")
    (hPieces : ∀ piece ∈ pieces, ¬ token.toList <:+: piece.toList ∧
      ∀ c ∈ piece.toList.getLast?, c ∉ token.toList) :
    cutAt token (String.join (pieces.map (· ++ token))) = pieces ++ [""] := by
  have hSome : token.toList ≠ [] := fun h => hToken (String.toList_eq_nil_iff.mp h)
  induction pieces with
  | nil =>
      rw [cutAt, List.map_nil, String.join_nil]
      rw [show "".toList = [] from rfl, cutFrom]
      rfl
  | cons piece pieces ih =>
      obtain ⟨hNone, hLast⟩ := hPieces piece List.mem_cons_self
      have hRest := ih fun other hOther => hPieces other (List.mem_cons_of_mem _ hOther)
      rw [cutAt] at hRest ⊢
      rw [List.map_cons, String.join_cons, String.toList_append, String.toList_append,
        List.append_assoc, cutFrom_append hSome hNone hLast, List.map_cons, hRest]
      simp

end PatchCoverage
