import Mathlib.Data.List.DropRight
import PatchCoverage.Config.Basic

namespace PatchCoverage

/-!
# Directories in their kept form

A directory of the configuration is kept without blanks around it, and empty or
with exactly one slash at the end.  `IsDirectory` says so of a text, without the
two trimmings that bring a text into that form.

The main statements are `isDirectory_normalizeDirectory`, by which path settings keep
directories in this form, and `normalizeDirectory_of_isDirectory`: a directory in this form
stays as it is when path settings are made again from it.
-/

/-- The kept form of a directory: empty, or with one slash at the end and no
blank in front. -/
def IsDirectory (text : String) : Prop :=
  text = "" ∨
    ∃ body, text.toList = body ++ ['/'] ∧ body.getLast? ≠ some '/' ∧
      ∀ c ∈ text.toList.head?, isBlank c = false

theorem trimEnd_prefix (drop : Char → Bool) (characters : List Char) :
    trimEnd drop characters <+: characters :=
  List.rdropWhile_prefix drop characters

/-- What remains after trimming begins with no character that is dropped. -/
theorem head?_trimBoth {drop : Char → Bool} {characters : List Char} {c : Char}
    (h : (trimBoth drop characters).head? = some c) : drop c = false := by
  have hHead : (characters.dropWhile drop).head? = some c := by
    obtain ⟨rest, hRest⟩ : trimBoth drop characters <+: characters.dropWhile drop :=
      trimEnd_prefix drop _
    rw [← hRest, List.head?_append, h, Option.some_or]
  have hNot := List.head?_dropWhile_not drop characters
  rw [hHead] at hNot
  exact hNot

/-- Trimming leaves a text that has nothing to drop at either end. -/
theorem trimBoth_of_ends {drop : Char → Bool} {body : List Char} {last : Char}
    (hHead : ∀ c ∈ (body ++ [last]).head?, drop c = false) (hLast : drop last = false) :
    trimBoth drop (body ++ [last]) = body ++ [last] := by
  have hFront : (body ++ [last]).dropWhile drop = body ++ [last] := by
    cases body with
    | nil => simp [hLast]
    | cons c rest => simp [hHead c rfl]
  rw [trimBoth, hFront]
  simp [hLast]

theorem getLast?_trimEnd_ne (c : Char) (characters : List Char) :
    (trimEnd (· == c) characters).getLast? ≠ some c := by
  intro hLast
  have hNot := List.head?_dropWhile_not (· == c) characters.reverse
  rw [trimEnd, List.getLast?_reverse] at hLast
  simp [hLast] at hNot

theorem trimEnd_append_singleton {body : List Char} {c : Char} (h : body.getLast? ≠ some c) :
    trimEnd (· == c) (body ++ [c]) = body := by
  have hBody : body.rdropWhile (· == c) = body := by
    rw [List.rdropWhile_eq_self_iff]
    intro hNil hLast
    exact h (by rw [List.getLast?_eq_some_getLast hNil, beq_iff_eq.mp hLast])
  calc
    trimEnd (· == c) (body ++ [c]) = (body ++ [c]).rdropWhile (· == c) := rfl
    _ = body.rdropWhile (· == c) := List.rdropWhile_concat_pos _ _ _ (by simp)
    _ = body := hBody

/-- Every directory is brought into its kept form. -/
theorem isDirectory_normalizeDirectory (path : String) :
    IsDirectory (normalizeDirectory path) := by
  unfold normalizeDirectory
  dsimp only
  split
  · exact .inl rfl
  · refine .inr ⟨trimEnd (· == '/') (trimBoth isBlank path.toList), by simp,
      getLast?_trimEnd_ne _ _, ?_⟩
    intro c hHead
    rw [String.toList_ofList, List.head?_append] at hHead
    -- The first character is that of the trimmed text, or the slash itself.
    obtain ⟨rest, hRest⟩ := trimEnd_prefix (· == '/') (trimBoth isBlank path.toList)
    cases hBody : (trimEnd (· == '/') (trimBoth isBlank path.toList)).head? with
    | none =>
        rw [hBody] at hHead
        obtain rfl : '/' = c := by simpa using hHead
        decide
    | some first =>
        rw [hBody] at hHead
        obtain rfl : first = c := by simpa using hHead
        exact head?_trimBoth (by rw [← hRest, List.head?_append, hBody, Option.some_or])

/-- A directory in its kept form is left as it is. -/
theorem normalizeDirectory_of_isDirectory {text : String} (h : IsDirectory text) :
    normalizeDirectory text = text := by
  rcases h with rfl | ⟨body, hText, hLast, hHead⟩
  · decide
  · rw [hText] at hHead
    have hTrim : trimBoth isBlank text.toList = body ++ ['/'] := by
      rw [hText]
      exact trimBoth_of_ends hHead (by decide)
    have hNotEmpty : ¬ (body ++ ['/']).isEmpty = true := by simp
    rw [normalizeDirectory, hTrim, if_neg hNotEmpty, trimEnd_append_singleton hLast, ← hText,
      String.ofList_toList]

namespace PathSettings

@[simp]
theorem reportPath_of (modulePath sourceRoot reportPath : String) :
    (PathSettings.of modulePath sourceRoot reportPath).reportPath =
      if reportPath = "" then normalizeDirectory modulePath ++ reportSuffix else reportPath := by
  simp [PathSettings.of]

/-- Path settings that are in their kept form are those made from the texts. -/
theorem eq_of {paths : PathSettings} {modulePath sourceRoot reportPath : String}
    (hModulePath : paths.modulePath = normalizeDirectory modulePath)
    (hSourceRoot : paths.sourceRoot = normalizeDirectory sourceRoot)
    (hReportPath : paths.reportPath =
      if reportPath = "" then paths.modulePath ++ reportSuffix else reportPath) :
    paths = .of modulePath sourceRoot reportPath := by
  rw [hModulePath, ← reportPath_of modulePath sourceRoot] at hReportPath
  cases paths
  subst hModulePath hSourceRoot hReportPath
  rfl

end PathSettings

end PatchCoverage
