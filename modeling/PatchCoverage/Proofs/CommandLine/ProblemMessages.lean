import PatchCoverage.Proofs.CommandLine.Messages

namespace PatchCoverage.CommandLine

/-!
# What is said of a configuration with problems

Both `check` and `config validate` count the problems of a configuration and list them,
each with a number in front.  All but one of the messages are the program's own words, which
are verbatim whatever emoji the terminal knows; the kind of counter is quoted as it is
configured.

The main statement is `problems_reported_iff`.
-/

open Console (Notice)

/-- The line that counts the problems. -/
def countText (problems : List ConfigurationProblem) : String :=
  "✗ Found " ++ integerText problems.length ++ " configuration error(s):"

/-- The number in front of a problem. -/
def numberText (index : Nat) : String :=
  "  " ++ integerText (index + 1 : Nat) ++ ". "

/-- The line on a problem. -/
def numberedText (index : Nat) (problem : ConfigurationProblem) : String :=
  numberText index ++ problem.message

/-- What `check` says of problems. -/
def checkTexts (problems : List ConfigurationProblem) : List String :=
  countText problems :: problems.mapIdx numberedText

/-- What `config validate` says of problems. -/
def validateTexts (problems : List ConfigurationProblem) : List String :=
  countText problems :: "" :: problems.mapIdx numberedText ++
    ["", "Fix these errors and run 'diffcov config validate' again."]

/-! ## The messages on problems -/

section Message

open Console (EmojiCodes)
open Console.Markup (IsOrdinary IsVerbatim isVerbatim_enclosed_iff)

/-- What stands in front of the threshold in a message. -/
def thresholdFront : String :=
  "coverage.threshold must be between 0 and 100 (got: "

/-- What stands in front of the kind of counter in a message. -/
def counterKindFront : String :=
  "coverage.counter_type must be one of " ++ ", ".intercalate Report.counterKinds ++ " (got: "

theorem isOrdinary_thresholdFront : IsOrdinary thresholdFront.toList := by
  rw [thresholdFront, String.toList_ofList]
  decide

theorem isClosed_thresholdFront : EmojiCodes.IsClosed thresholdFront.toList := by
  rw [thresholdFront, String.toList_ofList]
  decide

theorem counterKindFront_eq :
    counterKindFront = "coverage.counter_type must be one of " ++
      ("BRANCH, CLASS, COMPLEXITY, INSTRUCTION, LINE, METHOD" ++ " (got: ") := by
  decide +kernel

theorem isOrdinary_counterKindFront : IsOrdinary counterKindFront.toList := by
  rw [counterKindFront_eq, String.toList_append, String.toList_append]
  repeat rw [String.toList_ofList]
  decide

theorem isClosed_counterKindFront : EmojiCodes.IsClosed counterKindFront.toList := by
  rw [counterKindFront_eq, String.toList_append, String.toList_append]
  exact .append (EmojiCodes.isClosed_of_not_mem (by decide))
    (.append (EmojiCodes.isClosed_of_not_mem (by decide)) (by decide))

theorem toList_message_threshold (value : Binary64) :
    (ConfigurationProblem.threshold value).message.toList =
      thresholdFront.toList ++ value.shortestText.toList ++ [')'] :=
  String.toList_append.trans (congrArg (· ++ ")".toList) String.toList_append)

theorem toList_message_counterKind (kind : String) :
    (ConfigurationProblem.counterKind kind).message.toList =
      counterKindFront.toList ++ kind.toList ++ [')'] :=
  String.toList_append.trans (congrArg (· ++ ")".toList) String.toList_append)

/-- Apart from the kind of counter, messages are ordinary and have no codes. -/
theorem isOrdinary_message {problem : ConfigurationProblem}
    (h : ∀ kind, problem ≠ .counterKind kind) :
    IsOrdinary problem.message.toList ∧ EmojiCodes.names problem.message.toList = [] := by
  cases problem with
  | threshold value =>
      have hValue := value.isNumeral_shortestText
      have hColon : ':' ∉ value.shortestText.toList := hValue.not_mem (by decide)
      rw [toList_message_threshold, EmojiCodes.names_enclosed isClosed_thresholdFront (by decide)]
      exact ⟨(isOrdinary_thresholdFront.append (.of_isNumeral hValue)).append (by decide),
        EmojiCodes.namesFrom_eq_nil none hColon⟩
  | counterKind kind => exact absurd rfl (h kind)
  | _ =>
      unfold ConfigurationProblem.message
      rw [String.toList_ofList]
      decide

variable {problem : ConfigurationProblem}

/-- Only the kind of counter is a text from outside. -/
theorem isVerbatim_message_iff {codes : EmojiCodes} :
    IsVerbatim codes problem.message.toList ↔
      ∀ kind, problem = .counterKind kind → IsVerbatim codes kind.toList := by
  by_cases hKind : ∃ kind, problem = .counterKind kind
  · obtain ⟨kind, rfl⟩ := hKind
    rw [toList_message_counterKind, isVerbatim_enclosed_iff isOrdinary_counterKindFront (by decide)
      isClosed_counterKindFront (by decide)]
    simp
  · obtain ⟨hOrdinary, hNames⟩ := isOrdinary_message (not_exists.mp hKind)
    exact iff_of_true (hOrdinary.isVerbatim hNames codes) fun kind h => absurd ⟨kind, h⟩ hKind

theorem isUnmarked_message (h : ∀ kind, problem = .counterKind kind → IsUnmarked kind.toList) :
    IsUnmarked problem.message.toList := by
  by_cases hKind : ∃ kind, problem = .counterKind kind
  · obtain ⟨kind, rfl⟩ := hKind
    rw [toList_message_counterKind, isUnmarked_append_iff, isUnmarked_append_iff]
    exact ⟨⟨isOrdinary_counterKindFront.isUnmarked, h kind rfl⟩, by decide⟩
  · exact (isOrdinary_message (not_exists.mp hKind)).1.isUnmarked

/-- A message does not end in a backslash, so the tag behind it closes. -/
theorem getLast?_message_ne (problem : ConfigurationProblem) :
    problem.message.toList.getLast? ≠ some '\\' := by
  by_cases hKind : ∃ kind, problem = .counterKind kind
  · obtain ⟨kind, rfl⟩ := hKind
    rw [toList_message_counterKind, List.getLast?_concat]
    decide
  · exact (isOrdinary_message (not_exists.mp hKind)).1.isPlain.getLast?_ne

end Message

/-! ## The notices on problems -/

/-- The notice that counts the problems. -/
def countNotice (problems : List ConfigurationProblem) : Notice :=
  failureNotice ("Found " ++ integerText problems.length ++ " configuration error(s):")

theorem toList_numberText (index : Nat) :
    (numberText index).toList =
      "  ".toList ++ (integerText (index + 1 : Nat)).toList ++ ". ".toList := by
  rw [numberText, String.toList_append, String.toList_append]

theorem isOrdinary_numberText (index : Nat) :
    Console.Markup.IsOrdinary (numberText index).toList := by
  rw [toList_numberText]
  exact ((by decide : Console.Markup.IsOrdinary "  ".toList).append
    (.of_isNumeral (isNumeral_integerText _))).append (by decide)

theorem not_mem_numberText (index : Nat) : ':' ∉ (numberText index).toList := by
  have hDigits : ':' ∉ (integerText (index + 1 : Nat)).toList :=
    (isNumeral_integerText _).not_mem (by decide)
  have hBlanks : ':' ∉ "  ".toList ∧ ':' ∉ ". ".toList := by decide
  rw [toList_numberText, List.mem_append, List.mem_append]
  exact fun hMem => hMem.elim (Or.rec hBlanks.1 hDigits) hBlanks.2

/-- The notice on a problem. -/
def problemNotice (index : Nat) (problem : ConfigurationProblem) : Notice :=
  .ofStyled (numberText index) isStyle_red problem.message (isOrdinary_numberText index)
    (not_mem_numberText index) (getLast?_message_ne problem)

theorem block_problemNotice (index : Nat) (problem : ConfigurationProblem) :
    (problemNotice index problem).block =
      .message ("  " ++ integerText (index + 1 : Nat) ++ ". [red]" ++ problem.message ++
        "[/red]") := by
  refine congrArg Console.Block.message (String.toList_injective ?_)
  simp [problemNotice, Notice.ofStyled, numberText]

theorem text_problemNotice (index : Nat) (problem : ConfigurationProblem) :
    (problemNotice index problem).text = numberedText index problem :=
  rfl

/-- The notices of `check` on problems. -/
def checkNotices (problems : List ConfigurationProblem) : List Notice :=
  countNotice problems :: problems.mapIdx problemNotice

/-- What `config validate` advises. -/
def advice : String :=
  "Fix these errors and run 'diffcov config validate' again."

theorem isOrdinary_advice : Console.Markup.IsOrdinary advice.toList ∧
    Console.EmojiCodes.names advice.toList = [] := by
  rw [advice, String.toList_ofList]
  decide

/-- The notices of `config validate` on problems. -/
def validateNotices (problems : List ConfigurationProblem) : List Notice :=
  countNotice problems :: Notice.ofText "" :: problems.mapIdx problemNotice ++
    [Notice.ofText "", Notice.ofStyled "" isStyle_dim advice (List.forall_mem_nil _)
      List.not_mem_nil isOrdinary_advice.1.isPlain.getLast?_ne]

section Notices

open Console (EmojiCodes)
open Console.Markup (IsOrdinary IsVerbatim)

variable (problems : List ConfigurationProblem)

theorem text_countNotice : (countNotice problems).text = countText problems := by
  rw [countNotice, text_failureNotice, ← String.append_assoc, ← String.append_assoc]
  rfl

theorem map_block_mapIdx :
    (problems.mapIdx problemNotice).map Notice.block = problemList problems := by
  refine List.ext_getElem (by simp [problemList]) fun index _ _ => ?_
  simp [problemList, block_problemNotice]

theorem map_text_mapIdx :
    (problems.mapIdx problemNotice).map Notice.text = problems.mapIdx numberedText := by
  refine List.ext_getElem (by simp) fun index _ _ => ?_
  simp [text_problemNotice]

theorem map_block_checkNotices :
    (checkNotices problems).map Notice.block = problemCount problems :: problemList problems := by
  rw [checkNotices, List.map_cons, map_block_mapIdx, countNotice, block_failureNotice]
  rfl

theorem map_text_checkNotices :
    (checkNotices problems).map Notice.text = checkTexts problems := by
  rw [checkNotices, List.map_cons, map_text_mapIdx, text_countNotice]
  rfl

theorem map_block_validateNotices :
    (validateNotices problems).map Notice.block =
      problemCount problems :: Console.emptyLine :: problemList problems ++
        [Console.emptyLine,
          Console.remark "Fix these errors and run 'diffcov config validate' again."] := by
  rw [validateNotices, List.map_append, List.map_cons, List.map_cons, map_block_mapIdx,
    countNotice, block_failureNotice]
  rfl

theorem map_text_validateNotices :
    (validateNotices problems).map Notice.text = validateTexts problems := by
  rw [validateNotices, List.map_append, List.map_cons, List.map_cons, map_text_mapIdx,
    text_countNotice]
  rfl

theorem isOrdinary_countNotice : IsOrdinary (countNotice problems).body.toList ∧
    EmojiCodes.names (countNotice problems).body.toList = [] := by
  change IsOrdinary ("Found " ++ _ ++ " configuration error(s):").toList ∧
    EmojiCodes.names ("Found " ++ _ ++ " configuration error(s):").toList = []
  have hCount := isNumeral_integerText problems.length
  have hFront : EmojiCodes.IsClosed
      ("Found ".toList ++ (integerText problems.length).toList) :=
    .append (by decide)
      (EmojiCodes.isClosed_of_not_mem (hCount.not_mem (by decide)))
  rw [String.toList_append, String.toList_append, hFront.names_append]
  exact ⟨((by decide : IsOrdinary "Found ".toList).append (.of_isNumeral hCount)).append
    (by decide), by decide⟩

theorem isVerbatim_countNotice (codes : EmojiCodes) :
    IsVerbatim codes (countNotice problems).body.toList :=
  (isOrdinary_countNotice problems).1.isVerbatim (isOrdinary_countNotice problems).2 codes

theorem isVerbatim_nil (codes : EmojiCodes) : IsVerbatim codes (Notice.ofText "").body.toList :=
  IsOrdinary.isVerbatim (List.forall_mem_nil _) rfl codes

/-- The notices on problems have verbatim texts exactly if the kind of counter is
verbatim where it is a problem. -/
theorem forall_isVerbatim_mapIdx_iff {codes : EmojiCodes} :
    (∀ notice ∈ problems.mapIdx problemNotice, IsVerbatim codes notice.body.toList) ↔
      ∀ kind, .counterKind kind ∈ problems → IsVerbatim codes kind.toList := by
  constructor
  · intro h kind hMem
    obtain ⟨index, hIndex, hProblem⟩ := List.mem_iff_getElem.mp hMem
    have hNotice := h _ (List.mem_mapIdx.mpr ⟨index, hIndex, rfl⟩)
    exact isVerbatim_message_iff.mp hNotice kind hProblem
  · intro h notice hMem
    obtain ⟨index, hIndex, rfl⟩ := List.mem_mapIdx.mp hMem
    exact isVerbatim_message_iff.mpr fun kind hKind =>
      h kind (hKind ▸ List.getElem_mem hIndex)

variable {problems}

/-- Where the kind of counter has no marks, nothing that is said has any. -/
theorem isUnmarked_of_mem_validateTexts
    (h : ∀ kind, .counterKind kind ∈ problems → IsUnmarked kind.toList) :
    ∀ text ∈ validateTexts problems, IsUnmarked text.toList := by
  have hEmpty : IsUnmarked (Notice.ofText "").body.toList := by decide
  have hBodies : ∀ notice ∈ validateNotices problems, IsUnmarked notice.body.toList := by
    rw [validateNotices, List.forall_mem_append, List.forall_mem_cons, List.forall_mem_cons,
      List.forall_mem_cons, List.forall_mem_singleton]
    refine ⟨⟨(isOrdinary_countNotice problems).1.isUnmarked, hEmpty, ?_⟩, hEmpty,
      isOrdinary_advice.1.isUnmarked⟩
    intro notice hMem
    obtain ⟨index, hIndex, rfl⟩ := List.mem_mapIdx.mp hMem
    exact isUnmarked_message fun kind hKind => h kind (hKind ▸ List.getElem_mem hIndex)
  rw [← map_text_validateNotices, List.forall_mem_map]
  intro notice hMem
  rw [Notice.toList_text]
  exact isUnmarked_append_iff.mpr ⟨notice.own.isUnmarked, hBodies notice hMem⟩

/-- `check` says nothing that `config validate` does not say. -/
theorem checkTexts_subset : checkTexts problems ⊆ validateTexts problems :=
  List.cons_subset_cons _ fun _ hMem =>
    List.mem_cons_of_mem _ (List.mem_append_left _ hMem)

variable [Limits] {terminal : Console.Terminal}

/-- What `check` says of problems is printed in full exactly if the kind of counter is
verbatim where it is a problem and the terminal carries all that is said. -/
theorem printsInFull_checkTexts_iff :
    ((CheckStop.invalid problems).reply terminal).PrintsInFull terminal (checkTexts problems)
        "" 2 ↔
      (∀ kind, .counterKind kind ∈ problems → IsVerbatim terminal.emoji kind.toList) ∧
        ∀ text ∈ checkTexts problems, terminal.Carries text := by
  have hPrinted := @printsInFull_ofBlocks_iff _ terminal (checkNotices problems) "" usageStatus
  rw [map_block_checkNotices, map_text_checkNotices] at hPrinted
  refine hPrinted.trans (and_congr_left fun _ => ?_)
  rw [checkNotices, List.forall_mem_cons, and_iff_right (isVerbatim_countNotice problems _),
    forall_isVerbatim_mapIdx_iff]

/-- So is what `config validate` says of problems. -/
theorem printsInFull_validateTexts_iff (hProblems : problems ≠ []) :
    (validationReply terminal problems).PrintsInFull terminal (validateTexts problems)
        "Aborted!\n" 1 ↔
      (∀ kind, .counterKind kind ∈ problems → IsVerbatim terminal.emoji kind.toList) ∧
        ∀ text ∈ validateTexts problems, terminal.Carries text := by
  have hReply : validationReply terminal problems =
      .ofBlocks terminal ((validateNotices problems).map Notice.block) abortedText
        (.exit failureStatus) := by
    rw [map_block_validateNotices]
    cases problems with
    | nil => exact absurd rfl hProblems
    | cons problem problems => rfl
  have hPrinted :=
    @printsInFull_ofBlocks_iff _ terminal (validateNotices problems) abortedText failureStatus
  rw [map_text_validateNotices] at hPrinted
  rw [hReply]
  refine hPrinted.trans (and_congr_left fun _ => ?_)
  rw [validateNotices, List.forall_mem_append, List.forall_mem_cons, List.forall_mem_cons,
    List.forall_mem_cons, List.forall_mem_singleton, forall_isVerbatim_mapIdx_iff,
    and_iff_right (isVerbatim_countNotice problems _), and_iff_right (isVerbatim_nil _)]
  exact and_iff_left
    ⟨isVerbatim_nil _, isOrdinary_advice.1.isVerbatim isOrdinary_advice.2 _⟩

end Notices

/-! ## The commands -/

section Invalid

variable [Limits] {world : World} {arguments : List String} {loaded : Configuration}
  {problems : List ConfigurationProblem}

theorem reply_of_invalid {options : CheckOptions} (mark : String)
    (hRequest : readRequest world arguments = .ok (.check options))
    (hLoad : (world.loadConfiguration options.directory).outcome = .ok loaded)
    (hConsistent : (options.failUnder && options.warnOnly) = false)
    (hProblems : (options.configurationOn loaded).problems options.changes?.isNone = problems)
    (hInvalid : problems ≠ []) :
    (run world mark arguments).reply = (CheckStop.invalid problems).reply world.terminal := by
  refine reply_of_stop hRequest ?_
  rw [examine_outcome, hLoad, prepare_of_consistent hConsistent, hProblems, if_neg hInvalid]
  rfl

theorem reply_of_validateConfiguration {directory : PathName} (mark : String)
    (hRequest : readRequest world arguments = .ok (.validateConfiguration directory))
    (hLoad : (world.loadConfiguration directory).outcome = .ok loaded)
    (hProblems : loaded.problems true = problems) :
    (run world mark arguments).reply = validationReply world.terminal problems := by
  simp only [run, hRequest, carryOut, runOnConfiguration, hLoad, hProblems]

end Invalid

/-- A run of `check` with a configuration that loads and has problems prints how many
there are and all of them in full, and ends with status two, exactly if the kind of
counter is verbatim where it is a problem and the terminal carries all that is said.  So
does `config validate`, with status one. -/
theorem problems_reported_iff [Limits] (world : World) :
    (∀ mark arguments options loaded problems,
      readRequest world arguments = .ok (.check options) →
      (world.loadConfiguration options.directory).outcome = .ok loaded →
      (options.failUnder && options.warnOnly) = false →
      (options.configurationOn loaded).problems options.changes?.isNone = problems →
      problems ≠ [] →
      ((run world mark arguments).reply.PrintsInFull world.terminal (checkTexts problems) "" 2 ↔
        (∀ kind, .counterKind kind ∈ problems →
          Console.Markup.IsVerbatim world.terminal.emoji kind.toList) ∧
          ∀ text ∈ checkTexts problems, world.terminal.Carries text)) ∧
    ∀ mark arguments directory loaded problems,
      readRequest world arguments = .ok (.validateConfiguration directory) →
      (world.loadConfiguration directory).outcome = .ok loaded →
      loaded.problems true = problems →
      problems ≠ [] →
      ((run world mark arguments).reply.PrintsInFull world.terminal (validateTexts problems)
          "Aborted!\n" 1 ↔
        (∀ kind, .counterKind kind ∈ problems →
          Console.Markup.IsVerbatim world.terminal.emoji kind.toList) ∧
          ∀ text ∈ validateTexts problems, world.terminal.Carries text) := by
  constructor
  · intro mark arguments options loaded problems hRequest hLoad hConsistent hProblems hInvalid
    rw [reply_of_invalid mark hRequest hLoad hConsistent hProblems hInvalid]
    exact printsInFull_checkTexts_iff
  · intro mark arguments directory loaded problems hRequest hLoad hProblems hInvalid
    rw [reply_of_validateConfiguration mark hRequest hLoad hProblems]
    exact printsInFull_validateTexts_iff hInvalid

/-- A configuration with the given kind of counter. -/
def kindConfiguration (kind : String) : String :=
  "coverage:\n  counter_type: '" ++ kind ++ "'\n"

/-- A command line that scores the files listed on standard input. -/
def listedArguments : List String :=
  ["check", "--changed-files", "-"]

/-- What it asks for. -/
def listedOptions : CheckOptions :=
  { directory := rootDirectory
    overrides := {}
    failUnder := false
    warnOnly := false
    changes? := some .standardInput
    asJson := false
    noSetOutput := false }

/-- A kind of counter that reports do not have is reported by both commands, and by
`config validate` together with the refs that are missing. -/
theorem problems_reported_of_lines :
    (run (worldOfConfiguration (kindConfiguration "lines")) "" listedArguments).reply.PrintsInFull
        ⟨80, .empty⟩ (checkTexts [.counterKind "LINES"]) "" 2 ∧
      (run (worldOfConfiguration (kindConfiguration "lines")) ""
        validateArguments).reply.PrintsInFull ⟨80, .empty⟩
          (validateTexts [.counterKind "LINES", .noBaseRef, .noHeadRef]) "Aborted!\n" 1 := by
  have hCheck : readRequest (worldOfConfiguration (kindConfiguration "lines")) listedArguments =
      .ok (.check listedOptions) := by decide +kernel
  have hValidate :
      readRequest (worldOfConfiguration (kindConfiguration "lines")) validateArguments =
        .ok (.validateConfiguration rootDirectory) := by decide +kernel
  have hProblems : (((worldOfConfiguration (kindConfiguration "lines")).loadConfiguration
      rootDirectory).outcome.map fun loaded =>
        ((listedOptions.configurationOn loaded).problems false, loaded.problems true)).toOption =
      some ([.counterKind "LINES"], [.counterKind "LINES", .noBaseRef, .noHeadRef]) := by
    decide +kernel
  obtain ⟨loaded, hLoad, hProblems⟩ := exists_of_toOption_map hProblems
  obtain ⟨hChecked, hValidated⟩ := Prod.mk.inj hProblems
  have hKind {problems : List ConfigurationProblem}
      (h : ∀ kind, .counterKind kind ∈ problems → kind = "LINES") :
      ∀ kind, .counterKind kind ∈ problems → Console.Markup.IsVerbatim .empty kind.toList :=
    fun kind hMem => h kind hMem ▸ Console.Markup.IsOrdinary.isVerbatim (by decide) (by decide) _
  have hCarries {problems : List ConfigurationProblem}
      (h : ∀ kind, .counterKind kind ∈ problems → kind = "LINES") :
      ∀ text ∈ validateTexts problems, (Console.Terminal.mk 80 .empty).Carries text :=
    fun text hText => Console.Terminal.carries_of_isUnmarked (by decide)
      (isUnmarked_of_mem_validateTexts (fun kind hMem => h kind hMem ▸ by decide) text hText)
      fun _ _ => rfl
  have hReports := problems_reported_iff (worldOfConfiguration (kindConfiguration "lines"))
  constructor
  · refine (hReports.1 "" _ _ loaded _ hCheck hLoad rfl hChecked (by decide)).mpr ⟨?_, ?_⟩
    · exact hKind (by simp)
    · exact fun text hText => hCarries (by simp) text (checkTexts_subset hText)
  · refine (hReports.2 "" _ _ loaded _ hValidate hLoad hValidated (by decide)).mpr ⟨?_, ?_⟩
    · exact hKind (by simp)
    · exact hCarries (by simp)

/-- A closing tag in the message on a problem closes the style of the message, so the
closing tag behind the message closes nothing. -/
theorem plain_problem_of_closing (index : Nat) {front rest : String}
    (hFront : Console.Markup.IsPlain front.toList) (hRest : Console.Markup.IsPlain rest.toList)
    (codes : Console.EmojiCodes) :
    Console.Markup.plain codes
        ("  " ++ integerText (index + 1 : Nat) ++ ". [red]" ++ (front ++ "[/]" ++ rest) ++
          "[/red]") =
      .error (.unmatched "/red") := by
  have hText :
      ("  " ++ integerText (index + 1 : Nat) ++ ". [red]" ++ (front ++ "[/]" ++ rest) ++
        "[/red]").toList =
      (numberText index).toList ++ '[' :: ("red".toList ++ ']' :: (front.toList ++
        '[' :: (['/'] ++ ']' :: (rest.toList ++ '[' :: ('/' :: "red".toList ++ [']']))))) := by
    simp [numberText]
  obtain ⟨name, -, hOpens⟩ := isStyle_red.exists_opening
  have hCloses : Console.Markup.applyTag [⟨name, none⟩] ['/'] = .ok [] := rfl
  have hName : String.ofList ('/' :: "red".toList) = "/red" := by decide
  refine Console.Markup.plain_eq_error ?_ codes
  rw [hText, Console.Markup.checkTags_items_plain (isOrdinary_numberText index).isPlain,
    Console.Markup.checkTags_items_tag isStyle_red.opening, hOpens]
  change Console.Markup.checkTags [⟨name, none⟩] _ = _
  rw [Console.Markup.checkTags_items_plain hFront, Console.Markup.checkTags_items_tag (by decide),
    hCloses]
  change Console.Markup.checkTags [] _ = _
  rw [Console.Markup.checkTags_items_plain hRest,
    Console.Markup.checkTags_items_tag isStyle_red.closing, isStyle_red.applyTag_closing_nil,
    hName]
  rfl

/-- A kind of counter that is a closing tag is a problem of a configuration that loads, and
both commands end when they are to print it. -/
theorem run_ends_with_tagged_kind :
    (((worldOfConfiguration (kindConfiguration "[/]")).loadConfiguration
        rootDirectory).outcome.map fun loaded =>
          (listedOptions.configurationOn loaded).problems false).toOption =
        some [.counterKind "[/]"] ∧
      (run (worldOfConfiguration (kindConfiguration "[/]")) "" listedArguments).reply.ending =
        .uncaught (.markup (.unmatched "/red")) ∧
      (run (worldOfConfiguration (kindConfiguration "[/]")) "" validateArguments).reply.ending =
        .uncaught (.markup (.unmatched "/red")) := by
  have hCheck : readRequest (worldOfConfiguration (kindConfiguration "[/]")) listedArguments =
      .ok (.check listedOptions) := by decide +kernel
  have hValidate :
      readRequest (worldOfConfiguration (kindConfiguration "[/]")) validateArguments =
        .ok (.validateConfiguration rootDirectory) := by decide +kernel
  have hProblems : (((worldOfConfiguration (kindConfiguration "[/]")).loadConfiguration
      rootDirectory).outcome.map fun loaded =>
        ((listedOptions.configurationOn loaded).problems false, loaded.problems true)).toOption =
      some ([.counterKind "[/]"], [.counterKind "[/]", .noBaseRef, .noHeadRef]) := by
    decide +kernel
  obtain ⟨loaded, hLoad, hProblems⟩ := exists_of_toOption_map hProblems
  obtain ⟨hChecked, hValidated⟩ := Prod.mk.inj hProblems
  have hPlain := plain_problem_of_closing 0 isOrdinary_counterKindFront.isPlain
    (by decide : Console.Markup.IsPlain ")".toList) .empty
  -- What is printed in front of the message on the kind.
  have hFirst (problems : List ConfigurationProblem)
      (hKinds : ∀ kind, .counterKind kind ∈ problems → kind = "[/]") :
      ∀ notice ∈ [countNotice problems, Notice.ofText ""],
        Console.Markup.IsVerbatim .empty notice.body.toList ∧
          (Console.Terminal.mk 80 .empty).Carries notice.text := by
    have hCarries {text : String} (hText : text ∈ validateTexts problems) :
        (Console.Terminal.mk 80 .empty).Carries text :=
      Console.Terminal.carries_of_isUnmarked (by decide)
        (isUnmarked_of_mem_validateTexts (fun kind hMem => hKinds kind hMem ▸ by decide) _ hText)
        fun _ _ => rfl
    simp only [List.forall_mem_cons]
    refine ⟨⟨isVerbatim_countNotice problems _, hCarries ?_⟩,
      ⟨isVerbatim_nil _, hCarries ?_⟩, List.forall_mem_nil _⟩
    · rw [text_countNotice]
      exact List.mem_cons_self
    · exact List.mem_cons_of_mem _ List.mem_cons_self
  refine ⟨by rw [hLoad]; exact congrArg some hChecked, ?_, ?_⟩
  · rw [reply_of_invalid "" hCheck hLoad rfl hChecked (by decide)]
    have hCount := (List.forall_mem_cons.mp (hFirst [.counterKind "[/]"] (by simp))).1
    exact ending_ofBlocks_of_plain [countNotice [.counterKind "[/]"]] [] "" (.exit usageStatus)
      (List.forall_mem_singleton.mpr hCount) hPlain
  · rw [reply_of_validateConfiguration "" hValidate hLoad hValidated]
    exact ending_ofBlocks_of_plain
      [countNotice [.counterKind "[/]", .noBaseRef, .noHeadRef], Notice.ofText ""] _ abortedText
      (.exit failureStatus) (hFirst _ (by simp)) hPlain

end PatchCoverage.CommandLine
