import PatchCoverage.Proofs.Change.PathLines
import PatchCoverage.Proofs.Console.Escaped
import PatchCoverage.Proofs.Publish.OutputFile
import PatchCoverage.Proofs.Publish.Printed
import PatchCoverage.Proofs.Text.Token

namespace PatchCoverage

/-!
# Every scored file in every output

Four outputs list the scored files of a result: the rows of a table on one line with a
token behind each, the page of the summary, the table on the terminal and the JSON
document.  None of them leaves a file out or shows one twice.

That the token can be told from the rows is not obvious, since a row may have parts of
it in a name or in a link.  But the fixed texts around these begin and end with
characters that are not in the token (`IsFixedPart`), so that a row has the token only if
one of its own texts has it, and no token begins in a row and ends in the next one.

The table on the terminal shows the percentage and the verdict of every file, and its path
exactly if that is literal: escaping does not keep every text, `path_cell_loses_backslash`.

The main statement is `every_entry_in_every_output`.
-/

/-! ## Rows without the token -/

namespace StepOutput

/-- A text in which the token that ends a row does not occur. -/
def LacksRowEnd (text : String) : Prop :=
  ¬ rowEnd.toList <:+: text.toList

instance : DecidablePred LacksRowEnd :=
  fun text => inferInstanceAs (Decidable ¬ rowEnd.toList <:+: text.toList)

/-- A text in front of which and behind which no token can begin or end. -/
structure IsFixedPart (text : String) : Prop where
  lacks : LacksRowEnd text
  nonempty : text.toList ≠ []
  first : ∀ c ∈ text.toList.head?, c ∉ rowEnd.toList
  last : ∀ c ∈ text.toList.getLast?, c ∉ rowEnd.toList

instance : DecidablePred IsFixedPart := fun text =>
  decidable_of_iff
    (LacksRowEnd text ∧ text.toList ≠ [] ∧ text.toList.head?.all (· ∉ rowEnd.toList) = true ∧
      text.toList.getLast?.all (· ∉ rowEnd.toList) = true)
    ⟨fun ⟨hLacks, hNonempty, hFirst, hLast⟩ =>
        ⟨hLacks, hNonempty, by simpa [Option.all_eq_true] using hFirst,
          by simpa [Option.all_eq_true] using hLast⟩,
      fun h => ⟨h.lacks, h.nonempty, by simpa [Option.all_eq_true] using h.first,
        by simpa [Option.all_eq_true] using h.last⟩⟩

section Parts

variable {first second fixed : String}

theorem IsFixedPart.append (hFixed : IsFixedPart fixed) (hSecond : LacksRowEnd second) :
    LacksRowEnd (fixed ++ second) := by
  rw [LacksRowEnd, String.toList_append]
  exact not_infix_append hFixed.lacks hSecond (.inl hFixed.last)

theorem LacksRowEnd.append_fixed (hFirst : LacksRowEnd first) (hFixed : IsFixedPart fixed) :
    LacksRowEnd (first ++ fixed) := by
  rw [LacksRowEnd, String.toList_append]
  exact not_infix_append hFirst hFixed.lacks (.inr hFixed.first)

theorem LacksRowEnd.append (hFirst : LacksRowEnd first) (hFixed : IsFixedPart fixed)
    (hSecond : LacksRowEnd second) : LacksRowEnd (first ++ fixed ++ second) := by
  rw [String.append_assoc, LacksRowEnd, String.toList_append]
  refine not_infix_append hFirst (hFixed.append hSecond) (.inr fun c hHead => hFixed.first c ?_)
  rwa [String.toList_append, List.head?_append_of_ne_nil _ hFixed.nonempty] at hHead

end Parts

theorem lacksRowEnd_of_isNumeral {text : String} (h : IsNumeral text.toList) :
    LacksRowEnd text := by
  intro hToken
  have hColon : isNumeral ':' = true := h ':' (hToken.subset (by decide))
  exact absurd hColon (by decide)

end StepOutput

open StepOutput (LacksRowEnd rowEnd)

/-- Links that have the token only if the path has it. -/
structure LinkTarget.LacksRowEnd (target : LinkTarget) : Prop where
  repository : StepOutput.LacksRowEnd target.repository
  headRef : StepOutput.LacksRowEnd target.headRef

/-- A scored file whose texts do not have the token. -/
structure ScoredFile.LacksRowEnd (file : ScoredFile) : Prop where
  sourceName : StepOutput.LacksRowEnd file.sourceName
  path : StepOutput.LacksRowEnd file.path

section Rows

variable {target : LinkTarget} {file : ScoredFile}

theorem lacksRowEnd_fileCell (hTarget : target.LacksRowEnd) (hFile : file.LacksRowEnd) :
    LacksRowEnd (target.fileCell file) := by
  unfold LinkTarget.fileCell LinkTarget.fileUrl?
  split
  · exact hFile.sourceName
  · next url hUrl =>
    split at hUrl
    · cases hUrl
    · obtain rfl := Option.some.inj hUrl
      have hName : LacksRowEnd ("[" ++ file.sourceName) :=
        StepOutput.IsFixedPart.append (by decide) hFile.sourceName
      have hUrl : LacksRowEnd ("https://github.com/" ++ target.repository ++ "/blob/" ++
          target.headRef ++ "/" ++ file.path) :=
        ((StepOutput.IsFixedPart.append (by decide) hTarget.repository).append (by decide)
          hTarget.headRef).append (by decide) hFile.path
      exact (hName.append (by decide) hUrl).append_fixed (by decide)

/-- The row of a file whose texts do not have the token has none either, and ends in a
character that is not in it. -/
theorem lacksRowEnd_row {row : String} (hTarget : target.LacksRowEnd) (hFile : file.LacksRowEnd)
    (hRow : target.tableRow file = .ok row) :
    LacksRowEnd row ∧ ∀ c ∈ row.toList.getLast?, c ∉ rowEnd.toList := by
  obtain ⟨percentage, -, rfl⟩ := map_eq_ok_iff.mp hRow
  have hCell : LacksRowEnd ("| " ++ target.fileCell file) :=
    StepOutput.IsFixedPart.append (by decide) (lacksRowEnd_fileCell hTarget hFile)
  have hPercentage : LacksRowEnd (percentageText percentage) :=
    StepOutput.lacksRowEnd_of_isNumeral (isNumeral_percentageText percentage)
  have hGlyph : LacksRowEnd (verdictGlyph file.meetsThreshold) := by
    unfold verdictGlyph
    split <;> decide
  have hEnd : StepOutput.IsFixedPart " |" := by decide
  refine ⟨((hCell.append (by decide) hPercentage).append (by decide) hGlyph).append_fixed hEnd,
    fun c hLast => hEnd.last c ?_⟩
  rwa [String.toList_append, List.getLast?_append_of_ne_nil _ hEnd.nonempty] at hLast

end Rows

/-! ## Steps over lists -/

section Steps

variable {α β ε : Type} {step : α → Except ε β} {items : List α} {results : List β}

/-- Every item of a list that is carried through a step has its result in its place. -/
theorem forall₂_of_mapM_eq_ok (h : items.mapM step = .ok results) :
    List.Forall₂ (fun item result => step item = .ok result) items results := by
  induction items generalizing results with
  | nil =>
      obtain rfl := Except.ok.inj h
      exact .nil
  | cons item items ih =>
      rw [List.mapM_cons] at h
      obtain ⟨result, hResult, h⟩ := bind_eq_ok_iff.mp h
      obtain ⟨others, hOthers, h⟩ := bind_eq_ok_iff.mp h
      obtain rfl := Except.ok.inj h
      exact .cons hResult (ih hOthers)

end Steps

/-! ## The terminal -/

namespace TerminalReport

open Console

/-- A cell with a percentage in a colour shows the percentage. -/
theorem plain_styled_percentageText {style : String} (hStyle : style ∈ styles)
    (percentage : Binary64) (codes : EmojiCodes) :
    Markup.plain codes
        ("[" ++ style ++ "]" ++ percentageText percentage ++ "[/" ++ style ++ "]") =
      .ok (percentageText percentage).toList := by
  have hText : Markup.IsOrdinary (percentageText percentage).toList :=
    .of_isNumeral (isNumeral_percentageText percentage)
  have hCell : ("[" ++ style ++ "]" ++ percentageText percentage ++ "[/" ++ style ++ "]").toList =
      '[' :: (style.toList ++ ']' :: ((percentageText percentage).toList ++
        '[' :: ('/' :: style.toList ++ ']' :: []))) := by
    simp
  have hColon : ':' ∉ (percentageText percentage).toList := fun hMem =>
    absurd (isNumeral_percentageText percentage ':' hMem) (by decide)
  refine Markup.plain_of_bareText (isShown_styled_end hStyle hText.isPlain) ?_ hColon
    hText.not_isHidden codes
  rw [hCell, Markup.bareText_styled (isStyle_of_mem_styles hStyle) hText.isPlain.getLast?_ne,
    Markup.bareText_of_hasOnlyText hText.isPlain.hasOnlyText, Markup.bareText_nil,
    List.append_nil]

theorem plain_verdictGlyph (passed : Bool) (codes : EmojiCodes) :
    Markup.plain codes (verdictGlyph passed) = .ok (verdictGlyph passed).toList := by
  have hText : Markup.IsOrdinary (verdictGlyph passed).toList := by
    cases passed <;> decide
  have hColon : ':' ∉ (verdictGlyph passed).toList := by
    cases passed <;> decide
  exact Markup.plain_of_bareText (isShown_of_isPlain hText.isPlain)
    (Markup.bareText_of_hasOnlyText hText.isPlain.hasOnlyText) hColon hText.not_isHidden codes

end TerminalReport

/-! ## The page -/

namespace StepSummary

/-- The rows on a page: the lines between the four lines of its head and the first empty
one. -/
def rowsOn (page : String) : List String :=
  (((piecesBetween '\n' page.toList).drop 4).takeWhile (· ≠ [])).map String.ofList

/-- On a page whose rows are on one line each, these are found. -/
theorem rowsOn_printedLines {rows : List String} (last : String)
    (hRows : ∀ row ∈ rows, row ≠ "" ∧ '\n' ∉ row.toList) :
    rowsOn (printedLines ([heading, ""] ++ tableHead ++ rows ++ ["", last])) = rows := by
  have hPage : (printedLines ([heading, ""] ++ tableHead ++ rows ++ ["", last])).toList =
      (printedLines ([heading, ""] ++ tableHead)).toList ++
        ((printedLines rows).toList ++ '\n' :: (last ++ "\n").toList) := by
    simp [printedLines, String.join_cons]
  have hHead : ∀ line ∈ [heading, ""] ++ tableHead, '\n' ∉ line.toList := by
    decide
  rw [rowsOn, hPage, printedLines, piecesBetween_join_append hHead, printedLines,
    piecesBetween_join_append fun row hRow => (hRows row hRow).2, piecesBetween, if_pos rfl]
  have hDrop (rest : List (List Char)) :
      (([heading, ""] ++ tableHead).map String.toList ++ rest).drop 4 = rest := rfl
  rw [hDrop, List.takeWhile_append_of_pos, List.takeWhile_cons_of_neg (by simp), List.append_nil,
    List.map_map]
  · exact List.map_id'' (fun row => String.ofList_toList) rows
  · simpa using fun row hRow => (hRows row hRow).1

/-- The page on some scored files. -/
theorem exists_text_eq {target : LinkTarget} {result : ChangeCoverage} {rows : List String}
    (hDefined : ∀ file ∈ result.entries, ∃ percentage, file.percentage = .ok percentage)
    (hRows : target.tableRows result = .ok rows) (hSome : result.entries ≠ []) :
    ∃ last, text target result =
      .ok (printedLines ([heading, ""] ++ tableHead ++ rows ++ ["", last])) := by
  obtain ⟨percentages, hPercentages⟩ := exists_mapM_eq_ok hDefined
  have hAverage := ChangeCoverage.average_eq hPercentages hSome
  refine ⟨averageLine result.threshold (percentages.foldl (· + ·) Binary64.zero /
    Binary64.ofNat result.entries.length), ?_⟩
  have hLines : lines target result = .ok ([heading, ""] ++ tableHead ++ rows ++
      ["", averageLine result.threshold (percentages.foldl (· + ·) Binary64.zero /
        Binary64.ofNat result.entries.length)]) := by
    rw [lines, hAverage]
    simp only [bind, Except.bind, hRows]
  rw [text, hLines, Except.map, intercalate_append_eq_join (by simp), printedLines]

end StepSummary

/-! ## All outputs -/

/-- What the outputs show of a scored file with its percentage: a row of the table, the
cells of a row on the terminal, and an object of the document. -/
structure ScoredFile.IsShownIn (file : ScoredFile) (target : LinkTarget) (percentage : Binary64)
    (row : String) (cells : List String) (object : Json) : Prop where
  /-- The row has three cells: the name, by itself or as the text of a link, the percentage
  and the verdict. -/
  row : ∃ cell,
    (cell = file.sourceName ∨
      ∃ url, target.fileUrl? file.path = some url ∧
        cell = "[" ++ file.sourceName ++ "](" ++ url ++ ")") ∧
    row = "| " ++ cell ++ " | " ++ percentageText percentage ++ " | " ++
      verdictGlyph file.meetsThreshold ++ " |"
  /-- The cells on the terminal are the path in its escaped form, which shows it exactly if
  it is literal, and texts that show the percentage and the verdict.  A path is literal if
  it has no backslash, no colon and nothing that is hidden, whatever else is in it. -/
  cells : ∃ colour, cells = [Console.Markup.escape file.path, colour,
      verdictGlyph file.meetsThreshold] ∧
    ∀ codes,
      (Console.Markup.plain codes (Console.Markup.escape file.path) = .ok file.path.toList ↔
        Console.Markup.IsLiteral codes file.path) ∧
      ('\\' ∉ file.path.toList → ':' ∉ file.path.toList →
        (∀ c ∈ file.path.toList, Console.Markup.isHidden c = false) →
        Console.Markup.IsLiteral codes file.path) ∧
      Console.Markup.plain codes colour = .ok (percentageText percentage).toList ∧
      Console.Markup.plain codes (verdictGlyph file.meetsThreshold) =
        .ok (verdictGlyph file.meetsThreshold).toList
  path : object.field? "path" = some (.string file.path)
  coverage : object.field? "coverage" = some (.number percentage.roundedToHundredths)
  verdict : object.field? "meetsThreshold" = some (.bool file.meetsThreshold)

theorem ScoredFile.isShownIn {file : ScoredFile} {target : LinkTarget} {row : String}
    {cells : List String} {object : Json} (hRow : target.tableRow file = .ok row)
    (hCells : TerminalReport.tableRow file = .ok cells)
    (hObject : JsonReport.fileObject target file = .ok object) :
    ∃ percentage, file.percentage = .ok percentage ∧
      file.IsShownIn target percentage row cells object := by
  obtain ⟨percentage, hPercentage, rfl⟩ := map_eq_ok_iff.mp hRow
  rw [TerminalReport.tableRow, hPercentage] at hCells
  rw [JsonReport.fileObject, hPercentage] at hObject
  obtain rfl := Except.ok.inj hCells
  obtain rfl := Except.ok.inj hObject
  have hColour : (if file.meetsThreshold then "green" else "red") ∈ TerminalReport.styles := by
    split <;> decide
  refine ⟨percentage, hPercentage, ⟨⟨target.fileCell file, ?_, rfl⟩, ⟨_, rfl, fun codes =>
    ⟨Console.Markup.plain_escape_eq_ok_iff, Console.Markup.isLiteral_of_not_mem codes,
      TerminalReport.plain_styled_percentageText hColour percentage codes,
      TerminalReport.plain_verdictGlyph _ codes⟩⟩, rfl, rfl, rfl⟩⟩
  unfold LinkTarget.fileCell
  split
  · exact .inl rfl
  · next url hUrl => exact .inr ⟨url, hUrl, rfl⟩

/-- The decimal text of a natural number. -/
theorem integerText_natCast (value : Nat) : integerText value = toString value := by
  have hSign : ¬ (value : Int) < 0 := by omega
  rw [integerText, if_neg hSign, Int.natAbs_natCast]
  rfl

/-- Rows of a table, rows on the terminal and objects of a document that the outputs of a
result consist of, one of each for every scored file, in the same order. -/
structure ChangeCoverage.IsListedIn (result : ChangeCoverage) (target : LinkTarget)
    (rows : List String) (cells : List (List String)) (objects : List Json) : Prop where
  rendered : target.tableRows result = .ok rows
  /-- The table on one line is cut at the token into the rows, with nothing behind the
  last. -/
  outputs : ∃ overall table,
    StepOutput.ofResult target result = .ok
      [⟨"overall", overall⟩, ⟨"changed-files", toString result.fileCount⟩,
        ⟨"file-coverage", table⟩] ∧
    cutAt rowEnd table = rows ++ [""]
  /-- The page has exactly the rows between its head and an empty line. -/
  page : result.entries ≠ [] → ∃ page last, StepSummary.text target result = .ok page ∧
    page = printedLines (["### Coverage of changed files", ""] ++ StepSummary.tableHead ++ rows ++
      ["", last]) ∧
    ((∀ row ∈ rows, '\n' ∉ row.toList) → StepSummary.rowsOn page = rows)
  document : ∃ document, JsonReport.document target result = .ok document ∧
    document.field? "files" = some (.array objects)
  terminal : TerminalReport.fileCoverage result = .ok (if cells.isEmpty then [] else
    [Console.emptyLine,
      .table ⟨"Coverage of changed files", TerminalReport.tableColumns, cells⟩])
  counts : rows.length = result.fileCount ∧ cells.length = result.fileCount ∧
    objects.length = result.fileCount
  /-- What stands in one place shows the scored file in this place, with one percentage. -/
  shown : ∀ (index : Nat) (file : ScoredFile), result.entries[index]? = some file →
    ∃ percentage row cell object, file.percentage = .ok percentage ∧
      rows[index]? = some row ∧ cells[index]? = some cell ∧ objects[index]? = some object ∧
      file.IsShownIn target percentage row cell object

/-- If no name, path or part of a link has the token that ends a row, every output lists
every scored file once and in order; the table on the terminal shows the paths that are
literal, and no other. -/
theorem every_entry_in_every_output {target : LinkTarget} {result : ChangeCoverage}
    (hDefined : ∀ file ∈ result.entries, ∃ percentage, file.percentage = .ok percentage)
    (hTarget : target.LacksRowEnd) (hFiles : ∀ file ∈ result.entries, file.LacksRowEnd) :
    ∃ rows cells objects, result.IsListedIn target rows cells objects := by
  obtain ⟨average, hAverage⟩ := ChangeCoverage.exists_average hDefined
  obtain ⟨rows, hRows⟩ := target.exists_tableRows hDefined
  obtain ⟨cells, hCells⟩ := exists_mapM_eq_ok fun file hFile => by
    obtain ⟨cells, hCells, -⟩ := TerminalReport.exists_tableRow (hDefined file hFile)
    exact ⟨cells, hCells⟩
  have hObject : ∀ file ∈ result.entries, ∃ object,
      JsonReport.fileObject target file = .ok object := by
    intro file hFile
    obtain ⟨percentage, hPercentage⟩ := hDefined file hFile
    exact ⟨_, by rw [JsonReport.fileObject, hPercentage]; rfl⟩
  obtain ⟨objects, hObjects⟩ := exists_mapM_eq_ok hObject
  obtain ⟨hRowCount, hRowOf⟩ := List.forall₂_iff_get.mp (forall₂_of_mapM_eq_ok hRows)
  obtain ⟨hCellCount, hCellsOf⟩ := List.forall₂_iff_get.mp (forall₂_of_mapM_eq_ok hCells)
  obtain ⟨hObjectCount, hObjectOf⟩ := List.forall₂_iff_get.mp (forall₂_of_mapM_eq_ok hObjects)
  have hRendered : ∀ row ∈ rows, ∃ file ∈ result.entries, target.tableRow file = .ok row := by
    intro row hRow
    obtain ⟨place, hPlace, rfl⟩ := List.getElem_of_mem hRow
    have hEntry : place < result.entries.length := by omega
    exact ⟨_, List.getElem_mem hEntry, hRowOf place hEntry hPlace⟩
  refine ⟨rows, cells, objects, {
    rendered := hRows
    outputs := ?_
    page := ?_
    document := ?_
    terminal := ?_
    counts := ⟨hRowCount.symm, hCellCount.symm, hObjectCount.symm⟩
    shown := ?_ }⟩
  · refine ⟨_, StepOutput.singleLineTable rows, by
      rw [StepOutput.ofResult, ChangeCoverage.overallText, hAverage, hRows,
        ← integerText_natCast]
      rfl, cutAt_join (by decide) fun row hRow => ?_⟩
    obtain ⟨file, hFile, hRow⟩ := hRendered row hRow
    exact lacksRowEnd_row hTarget (hFiles file hFile) hRow
  · intro hSome
    obtain ⟨last, hPage⟩ := StepSummary.exists_text_eq hDefined hRows hSome
    refine ⟨_, last, hPage, rfl, fun hFeeds => StepSummary.rowsOn_printedLines last fun row hRow =>
      ⟨?_, hFeeds row hRow⟩⟩
    obtain ⟨file, -, hRow⟩ := hRendered row hRow
    rintro rfl
    cases head?_tableRow hRow
  · exact ⟨_, by rw [JsonReport.document, hAverage, hObjects]; rfl, rfl⟩
  · rw [TerminalReport.fileCoverage, hCells]
    rfl
  · intro index file hFile
    obtain ⟨hEntry, rfl⟩ := List.getElem?_eq_some_iff.mp hFile
    have hRow : index < rows.length := by omega
    have hCell : index < cells.length := by omega
    have hObject : index < objects.length := by omega
    obtain ⟨percentage, hPercentage, hShown⟩ := ScoredFile.isShownIn (hRowOf index hEntry hRow)
      (hCellsOf index hEntry hCell) (hObjectOf index hEntry hObject)
    exact ⟨percentage, _, _, _, hPercentage, List.getElem?_eq_getElem hRow,
      List.getElem?_eq_getElem hCell, List.getElem?_eq_getElem hObject, hShown⟩

/-- A result and links whose texts begin and end with parts of the token. -/
def resultOfTokenParts : ChangeCoverage where
  changedFiles := ["newline::", ":"]
  threshold := .ofNat 50
  entries := [⟨"newline::", "::newline:", "C", 1, 3, true⟩, ⟨":", ":newline::", "D", 3, 1, false⟩]
  skipped := []

/-- The rows on it. -/
def rowsOfTokenParts : List String :=
  ["| [::newline:](https://github.com/::newline/blob/:newline::/newline::) | 75.00% | ✅ |",
    "| [:newline::](https://github.com/::newline/blob/:newline::/:) | 25.00% | ❌ |"]

/-- Parts of the token on both sides of fixed texts are not taken for the token. -/
theorem every_entry_in_every_output_of_token_parts :
    let target : LinkTarget := ⟨"::newline", ":newline::"⟩
    (∀ file ∈ resultOfTokenParts.entries, ∃ percentage, file.percentage = .ok percentage) ∧
      target.LacksRowEnd ∧ (∀ file ∈ resultOfTokenParts.entries, file.LacksRowEnd) ∧
      ∃ overall table,
        StepOutput.ofResult target resultOfTokenParts = .ok
          [⟨"overall", overall⟩, ⟨"changed-files", "2"⟩, ⟨"file-coverage", table⟩] ∧
        cutAt "::newline::" table = rowsOfTokenParts ++ [""] := by
  intro target
  have hDefined : ∀ file ∈ resultOfTokenParts.entries,
      ∃ percentage, file.percentage = .ok percentage :=
    percentages_defined _ (by decide +kernel)
  have hTarget : target.LacksRowEnd := ⟨by decide, by decide⟩
  have hFiles : ∀ file ∈ resultOfTokenParts.entries, file.LacksRowEnd := by
    simp only [resultOfTokenParts, List.forall_mem_cons]
    exact ⟨⟨by decide, by decide⟩, ⟨by decide, by decide⟩, by simp⟩
  obtain ⟨rows, cells, objects, hListed⟩ := every_entry_in_every_output hDefined hTarget hFiles
  obtain ⟨overall, table, hOutputs, hCut⟩ := hListed.outputs
  have hRows : (target.tableRows resultOfTokenParts).toOption = some rowsOfTokenParts := by
    decide +kernel
  rw [hListed.rendered] at hRows
  obtain rfl := Option.some.inj hRows
  exact ⟨hDefined, hTarget, hFiles, overall, table, hOutputs, hCut⟩

/-- A path with a backslash in front of a bracket is shown without the backslash. -/
theorem path_cell_loses_backslash :
    let file : ScoredFile := ⟨"s/A\\[B].java", "A\\[B].java", "C", 1, 3, true⟩
    file.LacksRowEnd ∧ (∃ percentage, file.percentage = .ok percentage) ∧
      ∃ cell others, TerminalReport.tableRow file = .ok (cell :: others) ∧
        ∀ codes, Console.Markup.plain codes cell = .ok "s/A[B].java".toList := by
  intro file
  obtain ⟨percentage, hPercentage⟩ : ∃ percentage, file.percentage = .ok percentage :=
    percentages_defined [file] (by decide +kernel) file List.mem_cons_self
  refine ⟨⟨by decide, by decide⟩, ⟨percentage, hPercentage⟩,
    Console.Markup.escape file.path, _, by rw [TerminalReport.tableRow, hPercentage]; rfl, ?_⟩
  have hShown : ("s/A[B].java".toList.all fun c => !Console.Markup.isHidden c) = true := by decide
  exact Console.Markup.plain_of_bareText (Console.Markup.isShown_escape [] file.path)
    (by decide +kernel) (by decide)
    fun c hMem => by simpa using List.all_eq_true.mp hShown c hMem

end PatchCoverage
