import PatchCoverage.Scoring.Basic

namespace PatchCoverage

/-!
# When an average exists

A result without scored files has no average and meets every threshold.  With
scored files the average is a quotient of double-precision numbers, which
always exists if the percentages of the files do.
-/

/-- A list is carried through a step that fails for none of its items, and what
holds of every single result holds of the results. -/
theorem exists_mapM_eq_ok_and {α β ε : Type} {step : α → Except ε β} {good : β → Prop}
    {items : List α} (h : ∀ item ∈ items, ∃ result, step item = .ok result ∧ good result) :
    ∃ results, items.mapM step = .ok results ∧ ∀ result ∈ results, good result := by
  induction items with
  | nil => exact ⟨[], rfl, by simp⟩
  | cons item items ih =>
      obtain ⟨result, hResult, hGood⟩ := h item List.mem_cons_self
      obtain ⟨results, hResults, hAll⟩ :=
        ih fun other hOther => h other (List.mem_cons_of_mem _ hOther)
      refine ⟨result :: results, ?_, List.forall_mem_cons.mpr ⟨hGood, hAll⟩⟩
      rw [List.mapM_cons, hResult, hResults]
      rfl

/-- A list is carried through a step that fails for none of its items. -/
theorem exists_mapM_eq_ok {α β ε : Type} {step : α → Except ε β} {items : List α}
    (h : ∀ item ∈ items, ∃ result, step item = .ok result) :
    ∃ results, items.mapM step = .ok results := by
  have hTrue : ∀ item ∈ items, ∃ result, step item = .ok result ∧ True := by
    simpa using h
  obtain ⟨results, hResults, -⟩ := exists_mapM_eq_ok_and hTrue
  exact ⟨results, hResults⟩

namespace ChangeCoverage

variable {result : ChangeCoverage}

theorem average_of_no_entries (h : result.entries = []) : result.average = .ok none := by
  simp [average, h]

/-- The average of some files, in terms of their percentages. -/
theorem average_eq {percentages : List Binary64}
    (hPercentages : result.entries.mapM ScoredFile.percentage = .ok percentages)
    (hSome : result.entries ≠ []) :
    result.average = .ok (some
      (percentages.foldl (· + ·) Binary64.zero / Binary64.ofNat result.entries.length)) := by
  have hNotEmpty : ¬ result.entries.isEmpty = true := by simpa using hSome
  rw [average, if_neg hNotEmpty, total, ChangeCoverage.percentages, hPercentages]
  rfl

theorem exists_average
    (hDefined : ∀ file ∈ result.entries, ∃ percentage, file.percentage = .ok percentage) :
    ∃ average, result.average = .ok average := by
  by_cases hNone : result.entries = []
  · exact ⟨none, average_of_no_entries hNone⟩
  · obtain ⟨percentages, hPercentages⟩ := exists_mapM_eq_ok hDefined
    exact ⟨_, average_eq hPercentages hNone⟩

/-- The verdict on a result is that on its average. -/
theorem meetsThreshold_eq {average : Option Binary64} (h : result.average = .ok average) :
    result.meetsThreshold = .ok (averageMeets result.threshold average) := by
  rw [meetsThreshold, h]
  rfl

theorem meetsThreshold_of_no_entries (h : result.entries = []) :
    result.meetsThreshold = .ok true :=
  meetsThreshold_eq (average_of_no_entries h)

end ChangeCoverage

end PatchCoverage
