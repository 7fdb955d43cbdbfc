import PatchCoverage.Proofs.Json.Writing
import PatchCoverage.Proofs.Scoring.Average
import PatchCoverage.Publish.JsonReport

namespace PatchCoverage

/-!
# The JSON report as a text

The text of the report is written from a document, and programs get the document by
reading the text.  They get the same one: the names, texts, counts and verdicts as they
are, and each number from the shortest numeral that there is for it.

The numbers of the document are the threshold, the average and the percentages, the
latter two rounded to two places; so it is enough that these are finite.
-/

namespace JsonReport

variable {target : LinkTarget} {result : ChangeCoverage}

theorem numbers_map_string (texts : List String) :
    Json.itemNumbers (texts.map Json.string) = [] := by
  induction texts with
  | nil => rfl
  | cons text texts ih => simpa [Json.itemNumbers, Json.numbers] using ih

theorem numbers_getD_string (text? : Option String) :
    Json.numbers ((text?.map Json.string).getD .null) = [] := by
  cases text? <;> rfl

/-- The only number of an object is the percentage of its file. -/
theorem numbers_fileObject (target : LinkTarget) {file : ScoredFile} {percentage : Binary64}
    (h : file.percentage = .ok percentage) :
    ∃ object, fileObject target file = .ok object ∧
      Json.numbers object = [percentage.roundedToHundredths] := by
  refine ⟨_, by rw [fileObject, h]; rfl, ?_⟩
  simp [Json.numbers, Json.fieldNumbers, numbers_getD_string]

theorem isFinite_of_mem_overall {average? : Option Binary64}
    (h : ∀ average ∈ average?, average.isFinite = true) :
    ∀ value ∈ Json.numbers (overall average?), value.isFinite = true := by
  cases average? with
  | none => simp [overall, Json.numbers]
  | some average =>
      simpa [overall, Json.numbers] using Binary64.isFinite_roundedToHundredths (h average rfl)

/-- The document, given the average and the objects of the scored files. -/
theorem document_eq {average? : Option Binary64} {objects : List Json}
    (hAverage : result.average = .ok average?)
    (hObjects : result.entries.mapM (fileObject target) = .ok objects) :
    document target result = .ok (.object
      [("overall", overall average?),
        ("changedFiles", .integer result.fileCount),
        ("threshold", .number result.threshold),
        ("passed", .bool (ChangeCoverage.averageMeets result.threshold average?)),
        ("files", .array objects),
        ("skipped", .array (result.skipped.map Json.string)),
        ("diff", .array (result.changedFiles.map Json.string))]) := by
  rw [document, hAverage, hObjects]
  rfl

section Finite

variable (hPercentages : ∀ file ∈ result.entries, ∃ percentage,
  file.percentage = .ok percentage ∧ percentage.isFinite = true)

include hPercentages

theorem exists_objects_isFinite (target : LinkTarget) :
    ∃ objects, result.entries.mapM (fileObject target) = .ok objects ∧
      ∀ object ∈ objects, ∀ value ∈ object.numbers, value.isFinite = true := by
  refine exists_mapM_eq_ok_and fun file hFile => ?_
  obtain ⟨percentage, hPercentage, hFinite⟩ := hPercentages file hFile
  obtain ⟨object, hObject, hNumbers⟩ := numbers_fileObject target hPercentage
  refine ⟨object, hObject, ?_⟩
  simpa [hNumbers] using Binary64.isFinite_roundedToHundredths hFinite

/-- The document of a result with finite numbers has finite numbers alone. -/
theorem exists_document_isFinite (target : LinkTarget)
    (hThreshold : result.threshold.isFinite = true)
    (hAverage : ∀ average, result.average = .ok (some average) → average.isFinite = true) :
    ∃ json, document target result = .ok json ∧ ∀ value ∈ json.numbers, value.isFinite = true := by
  obtain ⟨average?, hAverage?⟩ := ChangeCoverage.exists_average fun file hFile =>
    let ⟨percentage, hPercentage, _⟩ := hPercentages file hFile
    ⟨percentage, hPercentage⟩
  obtain ⟨objects, hObjects, hFinite⟩ := exists_objects_isFinite hPercentages target
  refine ⟨_, document_eq hAverage? hObjects, fun value hValue => ?_⟩
  simp only [Json.numbers, Json.fieldNumbers, numbers_map_string, List.append_nil, List.nil_append,
    List.mem_append, List.mem_singleton, Json.mem_itemNumbers_iff] at hValue
  rcases hValue with hOverall | rfl | ⟨object, hObject, hNumber⟩
  · exact isFinite_of_mem_overall (fun average hSome => hAverage average (hSome ▸ hAverage?)) value
      hOverall
  · exact hThreshold
  · exact hFinite object hObject value hNumber

end Finite

/-- The report on a result with finite numbers, and counts of at most 4300 digits, is a
JSON text of its document and of no other, with the shortest numeral for each number. -/
theorem text_faithful (target : LinkTarget) (hThreshold : result.threshold.isFinite = true)
    (hPercentages : ∀ file ∈ result.entries, ∃ percentage,
      file.percentage = .ok percentage ∧ percentage.isFinite = true)
    (hAverage : ∀ average, result.average = .ok (some average) → average.isFinite = true)
    (hCounts : ∀ file ∈ result.entries,
      file.missed.natAbs < 10 ^ digitLimit ∧ file.covered.natAbs < 10 ^ digitLimit) :
    ∃ json printed, document target result = .ok json ∧ text target result = .ok printed ∧
      Json.IsTextOf Numeral.IsShortest json printed.toList ∧
      (∀ Form other, Json.IsTextOf Form other printed.toList → other = json) ∧
      Json.read? printed = some json := by
  obtain ⟨json, hJson, hFinite⟩ :=
    exists_document_isFinite hPercentages target hThreshold hAverage
  have hFit : countsFit result = true := by
    refine List.all_eq_true.mpr fun file hFile => ?_
    obtain ⟨hMissed, hCovered⟩ := hCounts file hFile
    simp only [integerFits, Nat.pow_eq, decide_eq_true hMissed, decide_eq_true hCovered,
      Bool.and_self]
  have hText := Json.isTextOf_write .unicode json hFinite
  exact ⟨json, json.text .unicode, hJson, by simp only [text, hJson, hFit, if_true], hText,
    fun Form other hOther => Json.eq_of_isTextOf hOther hText,
    Json.read?_text .unicode json hFinite⟩

/-- A result with quotes, backslashes, controls and characters beyond ASCII in its texts,
and with a percentage that is rounded. -/
def resultOfEscapedTexts : ChangeCoverage where
  changedFiles := ["\"Ä\\\x01.java", "b\t.java"]
  threshold := .ofNat 50
  entries := [⟨"\"Ä\\\x01.java", "\"Ä\\\x01.java", "C\n", 2, 1, false⟩]
  skipped := ["b\t😀.java"]

/-- The texts of the result are read back from its report, and so is the rounded
percentage. -/
theorem text_faithful_of_escaped_texts :
    let target : LinkTarget := ⟨"o/\"r\\", "é"⟩
    let result := resultOfEscapedTexts
    result.threshold.isFinite = true ∧
      (∀ file ∈ result.entries, ∃ percentage,
        file.percentage = .ok percentage ∧ percentage.isFinite = true) ∧
      (∀ average, result.average = .ok (some average) → average.isFinite = true) ∧
      (∀ file ∈ result.entries,
        file.missed.natAbs < 10 ^ digitLimit ∧ file.covered.natAbs < 10 ^ digitLimit) ∧
      ∃ json printed, text target result = .ok printed ∧ Json.read? printed = some json ∧
        json.field? "overall" = some (.number (.ofDecimal false 3333 (-2))) ∧
        json.field? "skipped" = some (.array [.string "b\t😀.java"]) ∧
        json.field? "diff" = some (.array [.string "\"Ä\\\x01.java", .string "b\t.java"]) := by
  intro target result
  have hThreshold : result.threshold.isFinite = true := by decide +kernel
  have hPercentages : ∀ file ∈ result.entries, ∃ percentage,
      file.percentage = .ok percentage ∧ percentage.isFinite = true := by
    intro file hFile
    obtain rfl := List.mem_singleton.mp hFile
    exact ⟨.ofDecimal false 3333333333333333 (-14), by decide +kernel, by decide +kernel⟩
  have hValue : result.average = .ok (some (.ofDecimal false 3333333333333333 (-14))) := by
    decide +kernel
  have hAverage : ∀ average, result.average = .ok (some average) → average.isFinite = true := by
    intro average hSame
    obtain rfl := Option.some.inj (Except.ok.inj (hValue.symm.trans hSame))
    decide +kernel
  have hCounts : ∀ file ∈ result.entries,
      file.missed.natAbs < 10 ^ digitLimit ∧ file.covered.natAbs < 10 ^ digitLimit := by
    decide +kernel
  obtain ⟨json, printed, hJson, hText, -, -, hRead⟩ :=
    text_faithful target hThreshold hPercentages hAverage hCounts
  refine ⟨hThreshold, hPercentages, hAverage, hCounts, json, printed, hText, hRead, ?_⟩
  have hRounded : (Binary64.ofDecimal false 3333333333333333 (-14)).roundedToHundredths =
      .ofDecimal false 3333 (-2) := by decide +kernel
  obtain ⟨objects, hObjects, -⟩ := exists_objects_isFinite hPercentages target
  rw [document_eq hValue hObjects] at hJson
  obtain rfl := Except.ok.inj hJson
  exact ⟨congrArg (fun value => some (Json.number value)) hRounded, rfl, rfl⟩

end JsonReport

end PatchCoverage
