import Mathlib.Data.List.Basic
import PatchCoverage.Proofs.Config.Placeholder

namespace PatchCoverage

/-!
# Expansion is one pass from the left

`Expands` is the rule for expanding a text, in the order in which it is read: where a
placeholder begins, the value of its variable is written and reading goes on behind it;
any other character is written as it is.  The rule never reads what it has written.

A placeholder has a single `$`, at its start, so placeholders never overlap, and a text
can be cut in front of any `$` without a difference (`segments_append_dollar`).  Hence
what stands around a placeholder is expanded as if it stood alone, whatever its value is
and however the placeholder is enclosed, and every place at which one is written counts
once (`filterMap_name?_segments`).

The main statement is `expansion_single_pass`.
-/

/-! ## The rule -/

/-- Reading a text from the left: what is written for it, and the warnings on the way. -/
inductive Expands (environment : Environment) : List Char → List Char → List String → Prop
  /-- Nothing is left to read. -/
  | done : Expands environment [] [] []
  /-- A placeholder of a variable that is set begins here. -/
  | value {name after written : List Char} {value : String} {warnings : List String}
      (hName : IsVariableName name) (hValue : environment.get? (String.ofList name) = some value)
      (hAfter : Expands environment after written warnings) :
      Expands environment (writtenPlaceholder name ++ after) (value.toList ++ written) warnings
  /-- A placeholder of a variable that is not set begins here. -/
  | unset {name after written : List Char} {warnings : List String}
      (hName : IsVariableName name) (hUnset : environment.get? (String.ofList name) = none)
      (hAfter : Expands environment after written warnings) :
      Expands environment (writtenPlaceholder name ++ after) written
        (unsetWarning (String.ofList name) :: warnings)
  /-- No placeholder begins here. -/
  | character {c : Char} {rest written : List Char} {warnings : List String}
      (hPlain : ∀ name, IsVariableName name → ¬ writtenPlaceholder name <+: c :: rest)
      (hRest : Expands environment rest written warnings) :
      Expands environment (c :: rest) (c :: written) warnings

/-! ## Segments of a text -/

theorem segments_nil : segments [] = [] := by
  rw [segments]
  rfl

theorem segments_of_takePlaceholder? {characters name after : List Char}
    (h : takePlaceholder? characters = some (name, after)) :
    segments characters = .placeholder name :: segments after := by
  rw [segments]
  split
  · next taken rest hTaken =>
    obtain ⟨rfl, rfl⟩ := Prod.mk.inj (Option.some.inj (h.symm.trans hTaken))
    rfl
  · next hTaken =>
    rw [h] at hTaken
    cases hTaken

theorem segments_cons_of_plain {c : Char} {rest : List Char}
    (h : takePlaceholder? (c :: rest) = none) :
    segments (c :: rest) = .literal c :: segments rest := by
  rw [segments]
  split
  · next hTaken =>
    rw [h] at hTaken
    cases hTaken
  · rfl

theorem segments_writtenPlaceholder {name : List Char} (hName : IsVariableName name)
    (after : List Char) :
    segments (writtenPlaceholder name ++ after) = .placeholder name :: segments after :=
  segments_of_takePlaceholder? (takePlaceholder?_eq_some_iff.mpr ⟨hName, rfl⟩)

theorem takePlaceholder?_eq_none_iff {characters : List Char} :
    takePlaceholder? characters = none ↔
      ∀ name, IsVariableName name → ¬ writtenPlaceholder name <+: characters := by
  rw [Option.eq_none_iff_forall_ne_some]
  constructor
  · rintro hNone name hName ⟨after, hAfter⟩
    exact hNone (name, after) (takePlaceholder?_eq_some_iff.mpr ⟨hName, hAfter.symm⟩)
  · rintro hPlain ⟨name, after⟩ hTaken
    obtain ⟨hName, hParts⟩ := takePlaceholder?_eq_some_iff.mp hTaken
    exact hPlain name hName ⟨after, hParts.symm⟩

/-- The rule writes what the segments of a text read as, with their warnings, and nothing
else. -/
theorem expands_iff {environment : Environment} {characters written : List Char}
    {warnings : List String} :
    Expands environment characters written warnings ↔
      written = (segments characters).flatMap (Segment.expand environment) ∧
        warnings = (segments characters).filterMap (Segment.warning? environment) := by
  constructor
  · -- Every step of the rule takes one segment from the front.
    intro hExpands
    induction hExpands with
    | done => simp [segments_nil]
    | value hName hValue hAfter ih =>
        rw [segments_writtenPlaceholder hName, List.flatMap_cons, List.filterMap_cons, ← ih.1,
          ← ih.2]
        simp [Segment.expand, Segment.warning?, hValue]
    | unset hName hUnset hAfter ih =>
        rw [segments_writtenPlaceholder hName, List.flatMap_cons, List.filterMap_cons, ← ih.1,
          ← ih.2]
        simp [Segment.expand, Segment.warning?, hUnset]
    | character hPlain hRest ih =>
        rw [segments_cons_of_plain (takePlaceholder?_eq_none_iff.mpr hPlain), List.flatMap_cons,
          List.filterMap_cons, ← ih.1, ← ih.2]
        exact ⟨rfl, rfl⟩
  · -- The recursion of `segments` has the same cases, once a variable is set or not.
    rintro ⟨rfl, rfl⟩
    fun_induction segments characters with
    | case1 characters name after hTaken ih =>
        obtain ⟨hName, rfl⟩ := takePlaceholder?_eq_some_iff.mp hTaken
        rw [List.flatMap_cons, List.filterMap_cons]
        cases hValue : environment.get? (String.ofList name) with
        | none => simpa [Segment.expand, Segment.warning?, hValue] using .unset hName hValue ih
        | some value =>
            simpa [Segment.expand, Segment.warning?, hValue] using .value hName hValue ih
    | case2 hTaken => exact .done
    | case3 c rest hTaken ih => exact .character (takePlaceholder?_eq_none_iff.mp hTaken) ih

/-! ## Placeholders do not overlap -/

/-- Behind its start a placeholder has no `$`. -/
theorem dollar_notMem_tail {name : List Char} (hName : IsVariableName name) :
    '$' ∉ (writtenPlaceholder name).tail := by
  have hWord : '$' ∉ name := fun hMem => absurd (hName.2 '$' hMem) (by decide)
  simp [writtenPlaceholder, hWord]

/-- What a placeholder in front of a `$` begins, it also ends in front of it. -/
theorem prefix_of_prefix_append_dollar {name front back : List Char} (hName : IsVariableName name)
    (hFront : front ≠ []) (h : writtenPlaceholder name <+: front ++ '$' :: back) :
    writtenPlaceholder name <+: front := by
  rcases List.prefix_or_prefix_of_prefix h (List.prefix_append front ('$' :: back)) with
    hInside | ⟨more, hMore⟩
  · exact hInside
  · cases more with
    | nil =>
        rw [List.append_nil] at hMore
        exact (hMore ▸ List.prefix_refl _)
    | cons d more =>
        -- The placeholder would go on with the `$`.
        rw [← hMore, List.prefix_append_right_inj] at h
        obtain ⟨rfl, -⟩ := List.cons_prefix_cons.mp h
        refine absurd ?_ (dollar_notMem_tail hName)
        rw [← hMore, List.tail_append_of_ne_nil hFront]
        simp

/-- A text can be cut in front of every `$`. -/
theorem segments_append_dollar (front back : List Char) :
    segments (front ++ '$' :: back) = segments front ++ segments ('$' :: back) := by
  fun_induction segments front with
  | case1 front name after hTaken ih =>
      obtain ⟨hName, rfl⟩ := takePlaceholder?_eq_some_iff.mp hTaken
      rw [List.append_assoc, segments_writtenPlaceholder hName, ih, List.cons_append]
  | case2 hTaken => rfl
  | case3 c rest hTaken ih =>
      -- A placeholder that begins here would have to run across the `$`.
      have hPlain : takePlaceholder? (c :: (rest ++ '$' :: back)) = none := by
        rw [takePlaceholder?_eq_none_iff] at hTaken ⊢
        intro name hName hPrefix
        exact hTaken name hName
          (prefix_of_prefix_append_dollar hName (List.cons_ne_nil c rest) hPrefix)
      rw [List.cons_append, segments_cons_of_plain hPlain, ih, List.cons_append]

/-- What stands around a placeholder is cut into segments as if it stood alone. -/
theorem segments_around {name : List Char} (hName : IsVariableName name)
    (front back : List Char) :
    segments (front ++ (writtenPlaceholder name ++ back)) =
      segments front ++ .placeholder name :: segments back := by
  rw [← segments_writtenPlaceholder hName back]
  exact segments_append_dollar front ('{' :: (name ++ ['}']) ++ back)

/-! ## Every place counts -/

/-- The variable that a segment names. -/
def Segment.name? : Segment → Option (List Char)
  | literal _ => none
  | placeholder name => some name

/-- The names of the placeholders that are written in a text, one for each place at which
one begins, from the left. -/
def writtenNames (characters : List Char) : List (List Char) :=
  characters.tails.filterMap fun rest => (takePlaceholder? rest).map Prod.fst

theorem writtenNames_cons (c : Char) (rest : List Char) :
    writtenNames (c :: rest) =
      ((takePlaceholder? (c :: rest)).map Prod.fst).toList ++ writtenNames rest := by
  rw [writtenNames, List.tails_cons, List.filterMap_cons]
  cases takePlaceholder? (c :: rest) <;> rfl

/-- No placeholder begins at any other character than `$`. -/
theorem writtenNames_append_of_notMem {front : List Char} (h : '$' ∉ front) (back : List Char) :
    writtenNames (front ++ back) = writtenNames back := by
  induction front with
  | nil => rfl
  | cons c rest ih =>
      have hNone : takePlaceholder? (c :: (rest ++ back)) = none := by
        rw [takePlaceholder?_eq_none_iff]
        rintro name - hPrefix
        obtain ⟨rfl, -⟩ := List.cons_prefix_cons.mp hPrefix
        exact h List.mem_cons_self
      rw [List.cons_append, writtenNames_cons, hNone,
        ih fun hMem => h (List.mem_cons_of_mem c hMem)]
      rfl

/-- The placeholders among the segments are all that are written in the text, in the same
order. -/
theorem filterMap_name?_segments (characters : List Char) :
    (segments characters).filterMap Segment.name? = writtenNames characters := by
  fun_induction segments characters with
  | case1 characters name after hTaken ih =>
      obtain ⟨hName, rfl⟩ := takePlaceholder?_eq_some_iff.mp hTaken
      have hWritten : writtenPlaceholder name ++ after =
          '$' :: ((writtenPlaceholder name).tail ++ after) := rfl
      -- The segments go on behind the placeholder, the places go through it.
      rw [hWritten] at hTaken ⊢
      rw [writtenNames_cons, hTaken, writtenNames_append_of_notMem (dollar_notMem_tail hName), ← ih]
      rfl
  | case2 hTaken => rfl
  | case3 c rest hTaken ih =>
      rw [writtenNames_cons, hTaken, ← ih]
      rfl

/-- One warning for each placeholder whose variable is not set. -/
theorem expansionWarnings_eq_map (environment : Environment) (text : String) :
    expansionWarnings environment text =
      ((writtenNames text.toList).filter fun name =>
        (environment.get? (String.ofList name)).isNone).map fun name =>
          unsetWarning (String.ofList name) := by
  rw [expansionWarnings, ← filterMap_name?_segments, List.filter_filterMap, List.map_filterMap]
  refine List.filterMap_congr fun segment _ => ?_
  cases segment with
  | literal c => rfl
  | placeholder name =>
      cases hValue : environment.get? (String.ofList name) <;>
        simp [Segment.warning?, Segment.name?, Option.filter_some, hValue]

/-! ## One pass -/

/-- The placeholder of a variable. -/
def placeholderOf (name : String) : String :=
  String.ofList (writtenPlaceholder name.toList)

section Texts

variable {environment : Environment} {text : String}

theorem expands_text_iff {written : List Char} {warnings : List String} :
    Expands environment text.toList written warnings ↔
      String.ofList written = expandText environment text ∧
        warnings = expansionWarnings environment text := by
  rw [expands_iff, expandText, expansionWarnings, String.ofList_inj]

theorem expansionWarnings_of_not_holdsPlaceholder (h : ¬ HoldsPlaceholder text) :
    expansionWarnings environment text = [] := by
  rw [expansionWarnings, List.filterMap_eq_nil_iff]
  intro segment hMem
  cases segment with
  | literal c => rfl
  | placeholder name => exact absurd ((holdsPlaceholder_iff text).mpr ⟨name, hMem⟩) h

/-- A placeholder is replaced by the value of its variable, and what stands around it is
expanded as if it stood alone. -/
theorem expandText_around {name : String} (hName : IsVariableName name.toList)
    (front back : String) :
    expandText environment (front ++ (placeholderOf name ++ back)) =
      expandText environment front ++
        ((environment.get? name).getD "" ++ expandText environment back) := by
  rw [← String.toList_inj]
  simp [expandText, placeholderOf, segments_around hName, Segment.expand]

theorem expansionWarnings_around {name : String} (hName : IsVariableName name.toList)
    (front back : String) :
    expansionWarnings environment (front ++ (placeholderOf name ++ back)) =
      expansionWarnings environment front ++
        ((if (environment.get? name).isSome then [] else [unsetWarning name]) ++
          expansionWarnings environment back) := by
  simp only [expansionWarnings, placeholderOf, String.toList_append, String.toList_ofList,
    segments_around hName, List.filterMap_append, List.filterMap_cons, Segment.warning?,
    String.ofList_toList]
  split <;> simp_all

end Texts

/-- Expanding a text is one pass from the left: it writes what the rule writes, with the
warnings of the rule.  So a text without placeholders stays as it is; a placeholder is
replaced whatever stands around it, which is expanded as if it stood alone and never
together with a value; and there is one warning for each place at which the placeholder of
a variable is written that is not set, in order. -/
theorem expansion_single_pass (environment : Environment) (text : String) :
    (∀ written warnings, Expands environment text.toList written warnings ↔
        String.ofList written = expandText environment text ∧
          warnings = expansionWarnings environment text) ∧
      (¬ HoldsPlaceholder text →
        expandText environment text = text ∧ expansionWarnings environment text = []) ∧
      (∀ front name back, IsVariableName name.toList →
        text = front ++ (placeholderOf name ++ back) →
          expandText environment text =
              expandText environment front ++
                ((environment.get? name).getD "" ++ expandText environment back) ∧
            expansionWarnings environment text =
              expansionWarnings environment front ++
                ((if (environment.get? name).isSome then [] else [unsetWarning name]) ++
                  expansionWarnings environment back)) ∧
      expansionWarnings environment text =
        ((writtenNames text.toList).filter fun name =>
          (environment.get? (String.ofList name)).isNone).map fun name =>
            unsetWarning (String.ofList name) := by
  refine ⟨fun written warnings => expands_text_iff, ?_, ?_,
    expansionWarnings_eq_map environment text⟩
  · intro hPlain
    exact ⟨expandText_eq_self environment hPlain, expansionWarnings_of_not_holdsPlaceholder hPlain⟩
  · rintro front name back hName rfl
    exact ⟨expandText_around hName front back, expansionWarnings_around hName front back⟩

/-- Variables whose values are placeholders, or become one where they are put. -/
def environmentOfParts : Environment :=
  ⟨[("A", "B"), ("B", "never read"), ("C", "$\x7bB\x7d")]⟩

/-- The values make placeholders, which stay, and a variable that is not set is written
twice. -/
theorem expansion_single_pass_of_nested :
    let front := "$\x7b"
    let back := "\x7d $\x7bC\x7d $\x7b-\x7d$\x7bU\x7d$\x7bU\x7d"
    let text := "$\x7b$\x7bA\x7d\x7d $\x7bC\x7d $\x7b-\x7d$\x7bU\x7d$\x7bU\x7d"
    IsVariableName "A".toList ∧ text = front ++ (placeholderOf "A" ++ back) ∧
      ¬ HoldsPlaceholder front ∧
      expandText environmentOfParts text = "$\x7bB\x7d $\x7bB\x7d $\x7b-\x7d" ∧
      expansionWarnings environmentOfParts text = [unsetWarning "U", unsetWarning "U"] := by
  intro front back text
  have hName : IsVariableName "A".toList :=
    ⟨by decide, List.forall_mem_singleton.mpr (by decide)⟩
  have hText : text = front ++ (placeholderOf "A" ++ back) := by decide
  have hFront : ¬ HoldsPlaceholder front := by decide +kernel
  obtain ⟨-, -, hAround, hWarnings⟩ := expansion_single_pass environmentOfParts text
  obtain ⟨-, hPlain, -, -⟩ := expansion_single_pass environmentOfParts front
  obtain ⟨hExpanded, -⟩ := hAround front "A" back hName hText
  refine ⟨hName, hText, hFront, ?_, ?_⟩
  · rw [hExpanded, (hPlain hFront).1]
    decide +kernel
  · rw [hWarnings]
    decide +kernel

end PatchCoverage
