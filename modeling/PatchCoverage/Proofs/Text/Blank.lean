import Mathlib.Data.List.DropRight
import PatchCoverage.Text.Blank

namespace PatchCoverage

/-!
# Text without its blanks

The ink of a text is all of it that is not blank.  It tells whether something was lost
where blanks may be put in or left out, as when a text is fitted into lines.
-/

/-- The characters of a text that are not blank. -/
def ink (text : List Char) : List Char :=
  text.filter fun c => !isBlank c

section Ink

variable {front rest text : List Char}

theorem ink_append (front rest : List Char) : ink (front ++ rest) = ink front ++ ink rest :=
  List.filter_append ..

theorem ink_cons_of_isBlank {c : Char} (h : isBlank c = true) : ink (c :: text) = ink text :=
  List.filter_cons_of_neg (by simp [h])

theorem ink_cons_of_not_isBlank {c : Char} (h : isBlank c = false) :
    ink (c :: text) = c :: ink text :=
  List.filter_cons_of_pos (by simp [h])

theorem ink_eq_nil_iff : ink text = [] ↔ ∀ c ∈ text, isBlank c = true := by
  simp [ink, List.filter_eq_nil_iff]

theorem ink_replicate (count : Nat) : ink (List.replicate count ' ') = [] := by
  rw [ink_eq_nil_iff]
  intro c hMem
  rw [List.eq_of_mem_replicate hMem]
  decide

theorem ink_flatMap {α : Type} (parts : List α) (text : α → List Char) :
    ink (parts.flatMap text) = parts.flatMap fun part => ink (text part) :=
  List.filter_flatMap ..

theorem ink_flatten (parts : List (List Char)) : ink parts.flatten = parts.flatMap ink := by
  rw [← List.flatMap_id, ink_flatMap]
  rfl

/-! ## Blanks at the end -/

/-- A text is what is left without the blanks at its end, and these blanks. -/
theorem exists_trimEnd_append (text : List Char) :
    ∃ blanks, text = trimEnd isBlank text ++ blanks ∧ ink blanks = [] := by
  refine ⟨text.rtakeWhile isBlank, (List.rdropWhile_append_rtakeWhile ..).symm, ?_⟩
  rw [ink_eq_nil_iff]
  exact fun c hMem => List.mem_rtakeWhile_imp hMem

theorem ink_trimEnd (text : List Char) : ink (trimEnd isBlank text) = ink text := by
  obtain ⟨blanks, hText, hBlanks⟩ := exists_trimEnd_append text
  rw [congrArg ink hText, ink_append, hBlanks, List.append_nil]

/-- What keeps a text up to the blanks at its end keeps its ink. -/
theorem ink_of_trimEnd_isPrefix {part : List Char} (hKept : trimEnd isBlank text <+: part)
    (h : ink part <+: ink text) : ink part = ink text := by
  refine h.eq_of_length_le ?_
  rw [← ink_trimEnd]
  exact (hKept.filter _).length_le

theorem trimEnd_append_of_ink_eq_nil (front : List Char) (h : ink rest = []) :
    trimEnd isBlank (front ++ rest) = trimEnd isBlank front := by
  rw [ink_eq_nil_iff] at h
  rw [trimEnd, List.reverse_append, List.dropWhile_append_of_pos (by simpa using h), trimEnd]

theorem trimEnd_append_of_ink_ne_nil (front : List Char) (h : ink rest ≠ []) :
    trimEnd isBlank (front ++ rest) = front ++ trimEnd isBlank rest := by
  have hSolid : rest.reverse.dropWhile isBlank ≠ [] := by
    rw [Ne, List.dropWhile_eq_nil_iff]
    rw [Ne, ink_eq_nil_iff] at h
    simpa using h
  rw [trimEnd, List.reverse_append, List.dropWhile_append]
  simp [hSolid, trimEnd]

end Ink

end PatchCoverage
