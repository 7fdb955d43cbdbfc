import PatchCoverage.Proofs.Publish.CommandLines
import PatchCoverage.Proofs.Text.Utf8
import PatchCoverage.Proofs.World.FileTree
import PatchCoverage.Publish.Files

namespace PatchCoverage

/-!
# The output file reads back

The table of a step stands in its output file as it is, between a line that opens
it and a line that closes it.  That is unambiguous because every row begins with a
bar: no row is the closing line, and no row is taken for an output of its own.  An
empty table still has a line, an empty one.

The main statement is `outputsIn?_of_writeAll`: whatever outputs a file has and
however often outputs are added to it, it reads as all of them in order, up to the
first that it has no code for.  Of the text that tells one block from another
nothing is asked but that it is on one line.
-/

/-! ## Reading line by line -/

namespace StepOutput

theorem piecesBetween_ne_nil (separator : Char) (characters : List Char) :
    piecesBetween separator characters ≠ [] := by
  cases characters with
  | nil => simp [piecesBetween]
  | cons c rest =>
      rw [piecesBetween]
      split
      · simp
      · split <;> simp

/-- A text that ends with a separator is cut before what follows it. -/
theorem piecesBetween_append_of_ends {separator : Char} {characters rest : List Char}
    (h : (piecesBetween separator characters).getLast? = some []) :
    piecesBetween separator (characters ++ rest) =
      (piecesBetween separator characters).dropLast ++ piecesBetween separator rest := by
  induction characters with
  | nil => rfl
  | cons c characters ih =>
      rw [List.cons_append]
      by_cases hSeparator : c = separator
      · rw [piecesBetween, if_pos hSeparator] at h
        rw [piecesBetween, if_pos hSeparator, piecesBetween, if_pos hSeparator]
        have hSome := piecesBetween_ne_nil separator characters
        rw [List.getLast?_cons_of_ne_nil hSome] at h
        rw [ih h, List.dropLast_cons_of_ne_nil hSome, List.cons_append]
      · rw [piecesBetween, if_neg hSeparator] at h
        rw [piecesBetween, if_neg hSeparator, piecesBetween, if_neg hSeparator]
        cases hPieces : piecesBetween separator characters with
        | nil => exact absurd hPieces (piecesBetween_ne_nil _ _)
        | cons piece pieces =>
            rw [hPieces] at h
            -- The first piece is not the last one, since it is not empty.
            cases pieces with
            | nil => simp at h
            | cons second pieces =>
                rw [List.getLast?_cons_cons] at h
                have hEnds : (piecesBetween separator characters).getLast? = some [] := by
                  rw [hPieces, List.getLast?_cons_cons, h]
                rw [ih hEnds, hPieces]
                rfl

theorem readLines?_append {open? : Option OpenValue} {lines : List (List Char)}
    {outputs : List StepOutput} (rest : List (List Char))
    (h : readLines? open? lines = some outputs) :
    readLines? open? (lines ++ rest) = (readLines? none rest).map (outputs ++ ·) := by
  fun_induction readLines? open? lines generalizing outputs with
  | case1 =>
      obtain rfl := Option.some.inj h
      simp
  | case2 => cases h
  | case3 line after name value hLine ih =>
      obtain ⟨others, hOthers, rfl⟩ := Option.map_eq_some_iff.mp h
      rw [List.cons_append, readLines?, hLine]
      simp [ih hOthers, Option.map_map, Function.comp_def]
  | case4 line after name closing hLine ih =>
      rw [List.cons_append, readLines?, hLine]
      exact ih h
  | case5 => cases h
  | case6 value after ih =>
      obtain ⟨others, hOthers, rfl⟩ := Option.map_eq_some_iff.mp h
      rw [List.cons_append, readLines?, if_pos rfl]
      simp [ih hOthers, Option.map_map, Function.comp_def]
  | case7 value line after hOpen ih =>
      rw [List.cons_append, readLines?, if_neg hOpen]
      exact ih h

/-- The lines of a value are read up to the line that closes it. -/
theorem readLines?_body {name closing : List Char} {before body rest : List (List Char)}
    (h : ∀ line ∈ body, line ≠ closing) :
    readLines? (some ⟨name, closing, before⟩) (body ++ closing :: rest) =
      (readLines? none rest).map
        (⟨String.ofList name, String.ofList (joinLines (before.reverse ++ body))⟩ :: ·) := by
  induction body generalizing before with
  | nil => simp [readLines?]
  | cons line body ih =>
      rw [List.cons_append, readLines?, if_neg (h line List.mem_cons_self),
        ih fun other hOther => h other (List.mem_cons_of_mem _ hOther)]
      simp

theorem readFile?_append {text : String} {outputs : List StepOutput} {lines : List String}
    (hText : readFile? text = some outputs) (hLines : ∀ line ∈ lines, IsUnbroken line) :
    readFile? (text ++ String.join (lines.map (· ++ "\n"))) =
      (readLines? none (lines.map String.toList)).map (outputs ++ ·) := by
  rw [readFile?] at hText
  split at hText
  · next hEnds =>
    rw [readFile?, String.toList_append, piecesBetween_append_of_ends hEnds,
      piecesBetween_printed hLines, ← List.append_assoc, List.getLast?_concat, if_pos rfl,
      List.dropLast_concat, readLines?_append _ hText]
  · cases hText

/-! ## One block -/

/-- The lines of a table in an output file; an empty table has an empty one. -/
def tableLines (rows : List String) : List String :=
  if rows = [] then [""] else rows

theorem intercalate_append_eq_join_tableLines (rows : List String) :
    "\n".intercalate rows ++ "\n" = String.join ((tableLines rows).map (· ++ "\n")) := by
  unfold tableLines
  split
  · next hNone =>
    rw [hNone]
    rfl
  · next hSome => exact intercalate_append_eq_join hSome

/-- The outputs that a run adds to its output file, the table with real lines. -/
def written (target : LinkTarget) (result : ChangeCoverage) :
    Except ArithmeticError (List StepOutput) := do
  let overall ← result.overallText
  let rows ← target.tableRows result
  .ok
    [⟨"overall", overall⟩,
      ⟨"changed-files", integerText result.fileCount⟩,
      ⟨"file-coverage", "\n".intercalate rows⟩]

/-- The lines of a block with the given values. -/
def linesOfBlock (mark overall count : String) (rows : List String) : List String :=
  ["overall=" ++ overall, "changed-files=" ++ count, "file-coverage<<" ++ delimiter mark] ++
    (tableLines rows ++ [delimiter mark])

theorem block_eq_join {mark : String} {target : LinkTarget} {result : ChangeCoverage}
    {rows : List String} {overall : String} (hRows : target.tableRows result = .ok rows)
    (hOverall : result.overallText = .ok overall) :
    block mark target result = .ok (String.join
      ((linesOfBlock mark overall (integerText result.fileCount) rows).map (· ++ "\n"))) := by
  have hTable := intercalate_append_eq_join_tableLines rows
  rw [block, blockLines, hRows, hOverall]
  simp only [bind, Except.bind, Except.map, String.intercalate_cons_cons, hTable, linesOfBlock,
    List.map_append, String.join_append, List.map_cons, List.map_nil, String.join_cons,
    String.join_nil, String.append_assoc]
  rfl

/-- The lines of a table are joined to the value that was to be written. -/
theorem ofList_joinLines_tableLines (rows : List String) :
    String.ofList (joinLines ((tableLines rows).map String.toList)) = "\n".intercalate rows := by
  rw [← String.toList_inj, String.toList_ofList, String.toList_intercalate]
  unfold tableLines
  split
  · next hNone =>
    rw [hNone]
    rfl
  · rfl

/-- No line of a table whose rows begin with a bar is the one that closes it. -/
theorem ne_delimiter_of_mem_tableLines {mark line : String} {rows : List String}
    (hRows : ∀ row ∈ rows, row.toList.head? = some '|') (h : line ∈ tableLines rows) :
    line.toList ≠ (delimiter mark).toList := by
  -- Whatever its mark, the closing line begins with a letter.
  have hClosing : (delimiter mark).toList.head? = some 'g' := by
    simp [delimiter]
  intro hSame
  rw [← hSame] at hClosing
  unfold tableLines at h
  split at h
  · obtain rfl := List.mem_singleton.mp h
    cases hClosing
  · rw [hRows line h] at hClosing
    exact absurd hClosing (by decide)

theorem readLine_overall (value : String) :
    readLine [] ("overall=" ++ value).toList = .output "overall".toList value.toList := by
  simp [readLine]

theorem readLine_changedFiles (value : String) :
    readLine [] ("changed-files=" ++ value).toList =
      .output "changed-files".toList value.toList := by
  simp [readLine]

theorem readLine_fileCoverage (closing : String) :
    readLine [] ("file-coverage<<" ++ closing).toList =
      .opening "file-coverage".toList closing.toList := by
  simp [readLine]

/-- A block reads as its three outputs. -/
theorem readLines?_linesOfBlock {mark overall count : String} {rows : List String}
    (hRows : ∀ row ∈ rows, row.toList.head? = some '|') :
    readLines? none ((linesOfBlock mark overall count rows).map String.toList) =
      some
        [⟨"overall", overall⟩, ⟨"changed-files", count⟩,
          ⟨"file-coverage", "\n".intercalate rows⟩] := by
  have hBody : ∀ line ∈ (tableLines rows).map String.toList, line ≠ (delimiter mark).toList := by
    intro line hLine
    obtain ⟨row, hRow, rfl⟩ := List.mem_map.mp hLine
    exact ne_delimiter_of_mem_tableLines hRows hRow
  have hTable :
      readLines? (some ⟨"file-coverage".toList, (delimiter mark).toList, []⟩)
          ((tableLines rows).map String.toList ++ [(delimiter mark).toList]) =
        some [⟨"file-coverage", "\n".intercalate rows⟩] := by
    rw [readLines?_body hBody, List.reverse_nil, List.nil_append, ofList_joinLines_tableLines,
      String.ofList_toList]
    rfl
  simp only [linesOfBlock, List.map_append, List.map_cons, List.map_nil, List.cons_append,
    List.nil_append, readLines?, readLine_overall, readLine_changedFiles, readLine_fileCoverage,
    hTable, Option.map_some, String.ofList_toList]

theorem isUnbroken_of_mem_linesOfBlock {mark overall count : String} {rows : List String}
    (hMark : IsUnbroken mark) (hOverall : IsUnbroken overall) (hCount : IsUnbroken count)
    (hRows : ∀ row ∈ rows, IsUnbroken row) :
    ∀ line ∈ linesOfBlock mark overall count rows, IsUnbroken line := by
  have hDelimiter : IsUnbroken (delimiter mark) := IsUnbroken.append (by decide) hMark
  have hTable : ∀ line ∈ tableLines rows, IsUnbroken line := by
    unfold tableLines
    split
    · simpa using (by decide : IsUnbroken "")
    · exact hRows
  simp only [linesOfBlock, List.forall_mem_append, List.forall_mem_cons]
  exact ⟨⟨IsUnbroken.append (by decide) hOverall, IsUnbroken.append (by decide) hCount,
    IsUnbroken.append (by decide) hDelimiter, by simp⟩, hTable, hDelimiter, by simp⟩

end StepOutput

/-! ## Rows -/

theorem head?_tableRow {target : LinkTarget} {file : ScoredFile} {row : String}
    (h : target.tableRow file = .ok row) : row.toList.head? = some '|' := by
  obtain ⟨percentage, -, rfl⟩ := map_eq_ok_iff.mp h
  simp

/-- What one run adds to an output file: its result, where its files can be looked
at, and what tells its block from others. -/
structure OutputCall where
  /-- The end of the line that closes the table. -/
  mark : String
  /-- Where the files can be looked at. -/
  target : LinkTarget
  /-- The result. -/
  result : ChangeCoverage

/-- The outputs that a run adds. -/
def OutputCall.outputs (call : OutputCall) : Except ArithmeticError (List StepOutput) :=
  StepOutput.written call.target call.result

/-- A run all of whose texts are on one line, and whose files have percentages. -/
structure OutputCall.IsOnLines (call : OutputCall) : Prop where
  mark : IsUnbroken call.mark
  target : call.target.IsUnbroken
  files : ∀ file ∈ call.result.entries, file.IsShownOnLine

/-- The output file has codes for all that a run adds. -/
def OutputCall.IsCoded [Limits] (call : OutputCall) : Prop :=
  ∀ block, StepOutput.block call.mark call.target call.result = .ok block →
    Limits.writes block = true

/-- The block of a run is made of lines, which read as its outputs. -/
theorem OutputCall.IsOnLines.exists_block {call : OutputCall} (h : call.IsOnLines) :
    ∃ (lines : List String) (outputs : List StepOutput),
      StepOutput.block call.mark call.target call.result =
        .ok (String.join (lines.map (· ++ "\n"))) ∧
      (∀ line ∈ lines, IsUnbroken line) ∧
      StepOutput.readLines? none (lines.map String.toList) = some outputs ∧
      call.outputs = .ok outputs := by
  obtain ⟨rows, hRows, hEach⟩ := exists_mapM_eq_ok_and fun file hFile => by
    obtain ⟨row, hRow, hUnbroken⟩ := exists_tableRow h.target (h.files file hFile)
    exact ⟨row, hRow, And.intro hUnbroken (head?_tableRow hRow)⟩
  change call.target.tableRows call.result = .ok rows at hRows
  obtain ⟨average, hAverage⟩ :=
    ChangeCoverage.exists_average fun file hFile => (h.files file hFile).percentage
  have hOverall : call.result.overallText = .ok (percentageText (average.getD .zero)) := by
    rw [ChangeCoverage.overallText, hAverage]
    rfl
  refine ⟨_, _, StepOutput.block_eq_join hRows hOverall,
    StepOutput.isUnbroken_of_mem_linesOfBlock h.mark (isUnbroken_percentageText _)
      (isUnbroken_integerText _) fun row hRow => (hEach row hRow).1,
    StepOutput.readLines?_linesOfBlock fun row hRow => (hEach row hRow).2, ?_⟩
  rw [outputs, StepOutput.written, hOverall, hRows]
  rfl

/-- A run that scored nothing adds zeros and an empty table. -/
theorem OutputCall.outputs_of_no_entries {call : OutputCall} (h : call.result.entries = []) :
    call.outputs =
      .ok [⟨"overall", "0.00%"⟩, ⟨"changed-files", "0"⟩, ⟨"file-coverage", ""⟩] := by
  have hRows : call.target.tableRows call.result = .ok [] := by
    rw [LinkTarget.tableRows, h]
    rfl
  have hZero : percentageText Binary64.zero = "0.00%" := by decide +kernel
  have hOverall : call.result.overallText = .ok "0.00%" := by
    rw [ChangeCoverage.overallText, ChangeCoverage.average_of_no_entries h]
    simp only [Except.map, Option.getD_none, hZero]
  have hCount : integerText call.result.fileCount = "0" := by
    rw [ChangeCoverage.fileCount, h]
    decide
  rw [outputs, StepOutput.written, hOverall, hRows, ← hCount]
  rfl

/-! ## The file -/

namespace World

/-- The outputs in a file as they are read by the runner, one line after the other; a
file that is still missing has none. -/
def outputsIn? (world : World) (name : PathName) : Option (List StepOutput) :=
  match world.read name with
  | .ok octets => (decodeUtf8 octets).toOption.bind StepOutput.readFile?
  | .error .missing => some []
  | .error _ => none

/-- Adds the outputs of runs to a file, one after the other, up to the first that
cannot be added. -/
def writeAll [Limits] (world : World) (name : PathName) : List OutputCall → WriteRun
  | [] => ⟨world, none⟩
  | call :: calls =>
    let run := world.writeOutputs name call.mark call.target call.result
    match run.error? with
    | some _ => run
    | none => run.world.writeAll name calls

/-- A file can be added to, and its octets so far are a text. -/
def HasText (world : World) (name : PathName) (text : String) : Prop :=
  ∃ parts target octets, world.locate name = .ok parts ∧
    world.files.appendTarget parts = .ok (target, octets) ∧ decodeUtf8 octets = .ok text

variable {world : World} {name : PathName} {text : String}

theorem HasText.outputsIn? {outputs : List StepOutput} (h : world.HasText name text)
    (hRead : StepOutput.readFile? text = some outputs) : world.outputsIn? name = some outputs := by
  obtain ⟨parts, target, octets, hParts, hTarget, hText⟩ := h
  have hFile : world.read name = world.files.read parts := by
    rw [read, hParts]
    rfl
  rw [World.outputsIn?, hFile]
  rcases (FileTree.isTarget_of_appendTarget hTarget).read with hOctets | ⟨hMissing, rfl⟩
  · rw [hOctets]
    simp [hText, hRead, Except.toOption]
  · obtain rfl : "" = text := Except.ok.inj hText
    rw [hMissing, ← hRead]
    rfl

variable [Limits]

/-- A text that is added to a file is behind the one that was there; one that the file has
no code for changes nothing. -/
theorem HasText.appendText (h : world.HasText name text) (more : String) :
    (world.appendText name more).error? =
        (if Limits.writes more then none else some .encoding) ∧
      (world.appendText name more).world.HasText name
        (text ++ if Limits.writes more then more else "") := by
  obtain ⟨parts, target, octets, hParts, hTarget, hText⟩ := h
  have hOctets : (if Limits.writes more then encodeUtf8 more else []) =
      encodeUtf8 (if Limits.writes more then more else "") := by
    split
    · rfl
    · exact encodeUtf8_empty.symm
  generalize (if Limits.writes more then more else "") = added at hOctets ⊢
  have hAppend : world.files.append parts (encodeUtf8 added) =
      .ok (FileTree.put (.file (octets ++ encodeUtf8 added)) world.files target) := by
    rw [FileTree.append, hTarget]
    rfl
  obtain ⟨target', octets', hTarget', -, -, hAfter, -⟩ := FileTree.append_effect hAppend
  obtain ⟨rfl, rfl⟩ := Prod.mk.inj (Except.ok.inj (hTarget.symm.trans hTarget'))
  have hWritten : world.append name (encodeUtf8 added) =
      .ok { world with
        files := FileTree.put (.file (octets ++ encodeUtf8 added)) world.files target } := by
    rw [append, hParts]
    simp only [bind, Except.bind, hAppend, Except.map]
  rw [World.appendText, hOctets, hWritten]
  exact ⟨rfl, parts, target, _, hParts, hAfter, decodeUtf8_append_encodeUtf8 added hText⟩

/-- A file that can be opened and read has a text. -/
theorem exists_hasText {outputs : List StepOutput}
    (hOpens : (world.appendText name "").error? = none)
    (hOutputs : world.outputsIn? name = some outputs) :
    ∃ text, world.HasText name text ∧ StepOutput.readFile? text = some outputs := by
  unfold appendText at hOpens
  split at hOpens
  · cases hOpens
  · next opened hAppend =>
    obtain ⟨parts, hParts, hRest⟩ := bind_eq_ok_iff.mp hAppend
    obtain ⟨files, hFiles, -⟩ := map_eq_ok_iff.mp hRest
    obtain ⟨target, octets, hTarget, -⟩ := FileTree.append_effect hFiles
    have hFile : world.read name = world.files.read parts := by
      rw [read, hParts]
      rfl
    rw [outputsIn?, hFile] at hOutputs
    rcases (FileTree.isTarget_of_appendTarget hTarget).read with hOctets | ⟨hMissing, rfl⟩
    · rw [hOctets] at hOutputs
      obtain ⟨text, hText, hRead⟩ := Option.bind_eq_some_iff.mp hOutputs
      refine ⟨text, ⟨parts, target, octets, hParts, hTarget, ?_⟩, hRead⟩
      cases hDecoded : decodeUtf8 octets with
      | error fault => simp [hDecoded, Except.toOption] at hText
      | ok decoded =>
          rw [hDecoded] at hText
          rw [Option.some.inj hText]
    · rw [hMissing] at hOutputs
      obtain rfl := Option.some.inj hOutputs
      exact ⟨"", ⟨parts, target, [], hParts, hTarget, rfl⟩, rfl⟩

/-- Adding the outputs of one run adds them to what the file reads as; if the file has no
code for one of their characters, it reads as before. -/
theorem HasText.writeOutputs {outputs : List StepOutput} {call : OutputCall}
    (h : world.HasText name text) (hRead : StepOutput.readFile? text = some outputs)
    (hCall : call.IsOnLines) :
    let run := world.writeOutputs name call.mark call.target call.result
    ∃ added after, call.outputs = .ok added ∧ run.world.HasText name after ∧
      (run.error? = none ∧ StepOutput.readFile? after = some (outputs ++ added) ∨
        run.error? = some .encoding ∧ ¬ call.IsCoded ∧
          StepOutput.readFile? after = some outputs) := by
  intro run
  obtain ⟨lines, added, hBlock, hUnbroken, hLines, hAdded⟩ := hCall.exists_block
  obtain ⟨hError, hAfter⟩ := h.appendText (String.join (lines.map (· ++ "\n")))
  have hRun : run = world.appendText name (String.join (lines.map (· ++ "\n"))) := by
    unfold run World.writeOutputs
    rw [hBlock]
  rw [hRun, hError]
  refine ⟨added, _, hAdded, hAfter, ?_⟩
  cases hWrites : Limits.writes (String.join (lines.map (· ++ "\n"))) with
  | true =>
      refine .inl ⟨rfl, ?_⟩
      rw [if_pos rfl, StepOutput.readFile?_append hRead hUnbroken, hLines]
      rfl
  | false =>
      refine .inr ⟨rfl, fun hCoded => ?_, ?_⟩
      · cases (hCoded _ hBlock).symm.trans hWrites
      · rw [if_neg Bool.false_ne_true, String.append_empty]
        exact hRead

theorem HasText.writeAll {outputs : List StepOutput} {calls : List OutputCall}
    (h : world.HasText name text) (hRead : StepOutput.readFile? text = some outputs)
    (hCalls : ∀ call ∈ calls, call.IsOnLines) :
    ∃ done added after, done <+: calls ∧ done.mapM OutputCall.outputs = .ok added ∧
      (world.writeAll name calls).world.HasText name after ∧
      StepOutput.readFile? after = some (outputs ++ added.flatten) ∧
      ((∀ call ∈ calls, call.IsCoded) →
        (world.writeAll name calls).error? = none ∧ done = calls) := by
  induction calls generalizing world text outputs with
  | nil => exact ⟨[], [], text, List.prefix_rfl, rfl, h, by simpa using hRead, fun _ => ⟨rfl, rfl⟩⟩
  | cons call calls ih =>
      obtain ⟨first, middle, hFirst, hMiddle, ⟨hError, hReadMiddle⟩ | ⟨hError, hUncoded, hSame⟩⟩ :=
        h.writeOutputs hRead (hCalls call List.mem_cons_self)
      · obtain ⟨done, rest, after, hDone, hRest, hAfter, hReadAfter, hAll⟩ :=
          ih hMiddle hReadMiddle fun other hOther => hCalls other (List.mem_cons_of_mem _ hOther)
        have hWrite : world.writeAll name (call :: calls) =
            (world.writeOutputs name call.mark call.target call.result).world.writeAll name
              calls := by
          simp only [World.writeAll, hError]
        rw [hWrite]
        refine ⟨call :: done, first :: rest, after, List.prefix_cons_inj call |>.mpr hDone, ?_,
          hAfter, ?_, fun hCoded => ?_⟩
        · rw [List.mapM_cons, hFirst, hRest]
          rfl
        · rw [hReadAfter, List.flatten_cons, List.append_assoc]
        · obtain ⟨hErrors, rfl⟩ := hAll (List.forall_mem_cons.mp hCoded).2
          exact ⟨hErrors, rfl⟩
      · have hWrite : world.writeAll name (call :: calls) =
            world.writeOutputs name call.mark call.target call.result := by
          simp only [World.writeAll, hError]
        rw [hWrite]
        refine ⟨[], [], middle, List.nil_prefix, rfl, hMiddle, by simpa using hSame,
          fun hCoded => ?_⟩
        exact absurd (hCoded call List.mem_cons_self) hUncoded

end World

/-- The outputs of runs that are added to a file one after the other all succeed if the
file has codes for them, and the file then reads as the outputs it had and those of every
run in order; a run that scored nothing has zeros and an empty table.  The first run that
the file has no code for ends this, and the file reads as if it had stopped before it. -/
theorem outputsIn?_of_writeAll [Limits] {world : World} {name : PathName}
    {outputs : List StepOutput} {calls : List OutputCall}
    (hOpens : (world.appendText name "").error? = none)
    (hOutputs : world.outputsIn? name = some outputs)
    (hCalls : ∀ call ∈ calls, call.IsOnLines) :
    ∃ done added, done <+: calls ∧ done.mapM OutputCall.outputs = .ok added ∧
      (world.writeAll name calls).world.outputsIn? name = some (outputs ++ added.flatten) ∧
      ((∀ call ∈ calls, call.IsCoded) →
        (world.writeAll name calls).error? = none ∧ done = calls) ∧
      ∀ call ∈ calls, call.result.entries = [] →
        call.outputs =
          .ok [⟨"overall", "0.00%"⟩, ⟨"changed-files", "0"⟩, ⟨"file-coverage", ""⟩] := by
  obtain ⟨text, hText, hRead⟩ := World.exists_hasText hOpens hOutputs
  obtain ⟨done, added, after, hDone, hAdded, hAfter, hReadAfter, hAll⟩ :=
    hText.writeAll hRead hCalls
  exact ⟨done, added, hDone, hAdded, hAfter.outputsIn? hReadAfter, hAll,
    fun call _ hNone => OutputCall.outputs_of_no_entries hNone⟩

/-- A runner whose output file holds a value of its own, with a line in it that a
table may end with. -/
def worldOfOutputs : World :=
  { environment := ⟨[("GITHUB_OUTPUT", "/outputs")]⟩
    files := .directory [("outputs", .file (encodeUtf8 "kept<<X\nghadelimiter_0\n\nX\n"))]
    directory := []
    git := none
    input := []
    columns := 80 }

/-- Two runs with one mark: the file of the first is named like the end of a table,
and the second scored nothing. -/
def callsOfOneMark : List OutputCall :=
  [⟨"0", ⟨"o/r", "a"⟩,
      ⟨["ghadelimiter_0"], .ofNat 50,
        [⟨"ghadelimiter_0", "ghadelimiter_0", "C", 1, 3, true⟩], []⟩⟩,
    ⟨"0", ⟨"", ""⟩, ⟨[], .ofNat 50, [], []⟩⟩]

/-- The two runs are read back after the value that the file had. -/
theorem outputsIn?_of_writeAll_with_one_mark :
    let name := PathName.ofText "/outputs"
    (worldOfOutputs.appendText name "").error? = none ∧
      worldOfOutputs.outputsIn? name = some [⟨"kept", "ghadelimiter_0\n"⟩] ∧
      (∀ call ∈ callsOfOneMark, call.IsOnLines) ∧
      (worldOfOutputs.writeAll name callsOfOneMark).world.outputsIn? name =
        some
          [⟨"kept", "ghadelimiter_0\n"⟩,
            ⟨"overall", "75.00%"⟩, ⟨"changed-files", "1"⟩,
            ⟨"file-coverage",
              "| [ghadelimiter_0](https://github.com/o/r/blob/a/ghadelimiter_0) | 75.00% | ✅ |"⟩,
            ⟨"overall", "0.00%"⟩, ⟨"changed-files", "0"⟩, ⟨"file-coverage", ""⟩] := by
  intro name
  have hOpens : (worldOfOutputs.appendText name "").error? = none := by decide +kernel
  have hOutputs : worldOfOutputs.outputsIn? name = some [⟨"kept", "ghadelimiter_0\n"⟩] := by
    decide +kernel
  have hFile : ScoredFile.IsShownOnLine ⟨"ghadelimiter_0", "ghadelimiter_0", "C", 1, 3, true⟩ :=
    ⟨by decide, by decide, .ofNat 75, by decide +kernel⟩
  have hCalls : ∀ call ∈ callsOfOneMark, call.IsOnLines := by
    unfold callsOfOneMark
    simp only [List.forall_mem_cons]
    exact ⟨⟨by decide, ⟨by decide, by decide⟩, by simpa using hFile⟩,
      ⟨by decide, ⟨by decide, by decide⟩, by simp⟩, by simp⟩
  obtain ⟨done, added, -, hAdded, hAfter, hAll, -⟩ :=
    outputsIn?_of_writeAll hOpens hOutputs hCalls
  obtain ⟨-, rfl⟩ := hAll fun _ _ block _ => Limits.writes_unlimited block
  obtain ⟨values, hValues, hFlat⟩ := exists_of_toOption_map
    (by decide +kernel :
      ((callsOfOneMark.mapM OutputCall.outputs).map List.flatten).toOption =
        some
          [⟨"overall", "75.00%"⟩, ⟨"changed-files", "1"⟩,
            ⟨"file-coverage",
              "| [ghadelimiter_0](https://github.com/o/r/blob/a/ghadelimiter_0) | 75.00% | ✅ |"⟩,
            ⟨"overall", "0.00%"⟩, ⟨"changed-files", "0"⟩, ⟨"file-coverage", ""⟩])
  obtain rfl : values = added := Except.ok.inj (hValues.symm.trans hAdded)
  exact ⟨hOpens, hOutputs, hCalls, by rw [hAfter, hFlat]; rfl⟩

end PatchCoverage
