import PatchCoverage.CommandLine.Program
import PatchCoverage.Proofs.Console.Wrap
import PatchCoverage.Proofs.Text.Lines

namespace PatchCoverage

/-!
# What a run tells that scored nothing

A run that has no result says why, in words of its own with a text inside that it was
given: an argument, a part of the configuration, a name, what `git` printed.  Such a text
is repeated as it stands, whatever is in it; a message on the terminal also loses its tags
and has its emoji put in.

A workflow command and a report in JSON are each known by a word that the program has in
none of its own messages.  So a run without a result has that word in what it prints only
if it is in a text that the run tells of: `CheckStop.exists_tells_of_printed`,
`CheckStop.exists_tells_of_complaint` and `Refusal.exists_tells_of_complaint`.
-/

namespace CommandLine

/-! ## Words that are not the program's own -/

/-- What the usage of a command is told with. -/
def usageHead (command : Command) : String :=
  command.usageLine ++ "\nTry '" ++ command.pathText ++ " --help' for help.\n"

/-- A word that is in no message of the program but in a text that it was given.  It has
no blank and no line end, so it does not reach from one text into another. -/
structure IsForeign (word : List Char) : Prop where
  blank : ' ' ∉ word
  feed : '\n' ∉ word
  nonempty : word ≠ []
  error : ¬ word <:+: "Error:".toList
  aborted : ¬ word <:+: abortedText.toList
  contradiction : ¬ word <:+: UsageProblem.contradiction.message.toList
  usage : ∀ command, ¬ word <:+: (usageHead command).toList
  help : ∀ command : Command, command.isGroup = true →
    ∀ line ∈ command.helpLines, ¬ word <:+: line.toList

/-- What a workflow command on the outputs of a step begins with. -/
def setOutput : List Char := "::set-output".toList

/-- The first key of a report in JSON. -/
def overallKey : List Char := "\"overall\":".toList

/-- Neither word is in the help of a group. -/
theorem not_isInfix_helpLines {command : Command} (hGroup : command.isGroup = true) :
    ∀ line ∈ command.helpLines, ¬ setOutput <:+: line.toList ∧ ¬ overallKey <:+: line.toList := by
  cases command with
  | program => decide +kernel
  | configuration => decide +kernel
  | _ => cases hGroup

theorem isForeign_setOutput : IsForeign setOutput where
  blank := by decide
  feed := by decide
  nonempty := by decide
  error := by decide
  aborted := by decide +kernel
  contradiction := by decide +kernel
  usage command := by cases command <;> decide +kernel
  help _ hGroup line hLine := (not_isInfix_helpLines hGroup line hLine).1

theorem isForeign_overallKey : IsForeign overallKey where
  blank := by decide
  feed := by decide
  nonempty := by decide
  error := by decide
  aborted := by decide +kernel
  contradiction := by decide +kernel
  usage command := by cases command <;> decide +kernel
  help _ hGroup line hLine := (not_isInfix_helpLines hGroup line hLine).2

theorem isInfix_key_text (alphabet : Json.Alphabet) (name : String) (value : Json)
    (fields : List (String × Json)) :
    Json.writeString alphabet name ++ [':'] <:+:
      ((Json.object ((name, value) :: fields)).text alphabet).toList := by
  rw [Json.text, String.toList_ofList, Json.write]
  exact ⟨'\x7b' :: Json.lineBreak 1,
    ' ' :: Json.write alphabet 1 value ++ Json.writeFields alphabet 0 fields, by simp⟩

/-- A report in JSON has its first key. -/
theorem isInfix_overallKey_of_report {target : LinkTarget} {result : ChangeCoverage}
    {document : String} (h : JsonReport.text target result = .ok document) :
    overallKey <:+: document.toList := by
  have hKey : Json.writeString .unicode "overall" ++ [':'] = overallKey := by decide
  unfold JsonReport.text at h
  split at h
  · cases h
  · next json hJson =>
    obtain ⟨average, -, hRest⟩ := bind_eq_ok_iff.mp hJson
    obtain ⟨files, -, hSame⟩ := bind_eq_ok_iff.mp hRest
    obtain rfl := Except.ok.inj hSame
    split at h
    · obtain rfl := Except.ok.inj h
      rw [← hKey]
      exact isInfix_key_text _ _ _ _
    · cases h

section Words

variable {word : List Char}

theorem IsForeign.not_isInfix_empty (h : IsForeign word) : ¬ word <:+: "".toList :=
  fun hNil => h.nonempty (List.infix_nil.mp hNil)

theorem IsForeign.not_isInfix_help (h : IsForeign word) {command : Command}
    (hGroup : command.isGroup = true) : ¬ word <:+: command.help.toList := by
  intro hIn
  -- The help is its lines with their ends, so a word without a line end is in one of them.
  have hSome : command.helpLines ≠ [] := List.append_ne_nil_of_left_ne_nil (by simp) _
  rw [Command.help, intercalate_append_eq_join hSome, String.toList_join, List.flatMap_map] at hIn
  have hLines : word <:+:
      ((command.helpLines.map String.toList).flatMap fun line => line ++ ['\n']) ++ [] := by
    simpa [List.flatMap_map] using hIn
  rcases Console.exists_isInfix_of_flatMap h.feed hLines with ⟨line, hLine, hWord⟩ | hNil
  · obtain ⟨text, hText, rfl⟩ := List.mem_map.mp hLine
    exact h.help command hGroup text hText hWord
  · exact h.nonempty (List.infix_nil.mp hNil)

/-- A word that stands in an error line is in the message. -/
theorem IsForeign.isInfix_of_error (h : IsForeign word) {message : String}
    (hIn : word <:+: ("Error: " ++ message ++ "\n").toList) : word <:+: message.toList := by
  -- The word is on one side of the blank, and on one side of the line end.
  have hWhole : word <:+: "Error:".toList ++ ' ' :: (message.toList ++ '\n' :: []) := by
    simpa using hIn
  rcases Console.isInfix_left_or_right h.blank hWhole with hFront | hRest
  · exact absurd hFront h.error
  · rcases Console.isInfix_left_or_right h.feed hRest with hMessage | hNil
    · exact hMessage
    · exact absurd hNil h.not_isInfix_empty

/-- A word that stands in what is said of a problem with the arguments is in its
message. -/
theorem IsForeign.isInfix_of_report (h : IsForeign word) {problem : UsageProblem}
    {command : Command} (hIn : word <:+: (problem.report command).toList) :
    word <:+: problem.message.toList := by
  unfold UsageProblem.report at hIn
  split at hIn
  · have hWhole : word <:+: (usageHead command).toList ++
        '\n' :: ("Error: " ++ problem.message ++ "\n").toList := by
      simpa [usageHead] using hIn
    rcases Console.isInfix_left_or_right h.feed hWhole with hHead | hError
    · exact absurd hHead (h.usage command)
    · exact h.isInfix_of_error hError
  · exact h.isInfix_of_error (by simpa using hIn)

end Words

/-! ## Runs that are stopped -/

@[simp]
theorem Reply.printed_ofBlocks [Limits] (terminal : Console.Terminal)
    (blocks : List Console.Block) (complaint : String) (ending : Ending) :
    (Reply.ofBlocks terminal blocks complaint ending).printed =
      (Console.print terminal blocks).text := by
  unfold ofBlocks ofPrinted
  split <;> rfl

@[simp]
theorem Reply.printed_ofError (message? : Option String) (uncaught : Uncaught) :
    (Reply.ofError message? uncaught).printed = "" := by
  cases message? <;> rfl

theorem Reply.complaint_ofBlocks [Limits] (terminal : Console.Terminal)
    (blocks : List Console.Block) (complaint : String) (ending : Ending) :
    (Reply.ofBlocks terminal blocks complaint ending).complaint = "" ∨
      (Reply.ofBlocks terminal blocks complaint ending).complaint = complaint := by
  unfold ofBlocks ofPrinted
  split
  · exact .inl rfl
  · exact .inr rfl

/-- What a run tells about what stopped it, on a terminal with some emoji. -/
def CheckStop.Tells (codes : Console.EmojiCodes) : CheckStop → List Char → Prop
  | load error, text => ∃ message, error.message? = some message ∧
      (Console.failure ("Failed to load configuration: " ++ message)).Shows codes text
  | invalid problems, text =>
      ∃ block ∈ problemCount problems :: problemList problems, block.Shows codes text
  | diff error, text => ∃ message, error.message? = some message ∧ message.toList = text
  | report error, text => ∃ message, error.message? = some message ∧ message.toList = text
  | _, _ => False

section Stopped

variable [Limits] {word : List Char} {terminal : Console.Terminal} {stop : CheckStop}

/-- A run that is stopped has such a word in its output only if what stopped it has. -/
theorem CheckStop.exists_tells_of_printed (hWord : IsForeign word)
    (h : word <:+: (stop.reply terminal).printed.toList) :
    ∃ text, stop.Tells terminal.emoji text ∧ word <:+: text := by
  have hNothing : ¬ word <:+: "".toList := hWord.not_isInfix_empty
  cases stop with
  | load error =>
      rw [CheckStop.reply, Reply.ofLoadError] at h
      cases hMessage : error.message? with
      | none =>
          rw [hMessage] at h
          exact absurd h hNothing
      | some message =>
          simp only [hMessage, Reply.printed_ofBlocks] at h
          have hOne : ∀ block ∈ [Console.failure ("Failed to load configuration: " ++ message)],
              ∃ text, block = .message text := by
            rw [List.forall_mem_singleton]
            exact ⟨_, rfl⟩
          obtain ⟨block, hBlock, shown, hShown, hIn⟩ := Console.exists_shown_of_isInfix_print hOne
            hWord.blank hWord.feed hWord.nonempty h
          rw [List.mem_singleton.mp hBlock] at hShown
          exact ⟨shown, ⟨message, hMessage, hShown⟩, hIn⟩
  | invalid problems =>
      have hAll : ∀ block ∈ problemCount problems :: problemList problems,
          ∃ text, block = .message text := by
        rw [List.forall_mem_cons]
        refine ⟨⟨_, rfl⟩, fun block hBlock => ?_⟩
        obtain ⟨index, hIndex, rfl⟩ := List.mem_mapIdx.mp hBlock
        exact ⟨_, rfl⟩
      rw [CheckStop.reply, Reply.printed_ofBlocks] at h
      obtain ⟨block, hBlock, shown, hShown, hIn⟩ := Console.exists_shown_of_isInfix_print hAll
        hWord.blank hWord.feed hWord.nonempty h
      exact ⟨shown, ⟨block, hBlock, hShown⟩, hIn⟩
  | diff error =>
      rw [CheckStop.reply, Reply.printed_ofError] at h
      exact absurd h hNothing
  | report error =>
      rw [CheckStop.reply, Reply.printed_ofError] at h
      exact absurd h hNothing
  | _ => exact absurd h hNothing

/-- So it does on the error channel. -/
theorem CheckStop.exists_tells_of_complaint (hWord : IsForeign word)
    (h : word <:+: (stop.reply terminal).complaint.toList) :
    ∃ text, stop.Tells terminal.emoji text ∧ word <:+: text := by
  have hNothing : ¬ word <:+: "".toList := hWord.not_isInfix_empty
  have hBlocks {blocks : List Console.Block} {complaint : String} {ending : Ending}
      (hComplaint : ¬ word <:+: complaint.toList) :
      ¬ word <:+: (Reply.ofBlocks terminal blocks complaint ending).complaint.toList := by
    rcases Reply.complaint_ofBlocks terminal blocks complaint ending with hNone | hSome
    · rwa [hNone]
    · rwa [hSome]
  have hError {message? : Option String} {uncaught : Uncaught}
      (hIn : word <:+: (Reply.ofError message? uncaught).complaint.toList) :
      ∃ text, (∃ message, message? = some message ∧ message.toList = text) ∧ word <:+: text := by
    cases message? with
    | none => exact absurd hIn hNothing
    | some message => exact ⟨_, ⟨message, rfl, rfl⟩, hWord.isInfix_of_error hIn⟩
  cases stop with
  | load error =>
      rw [CheckStop.reply, Reply.ofLoadError] at h
      split at h
      · exact absurd h (hBlocks hWord.aborted)
      · exact absurd h hNothing
  | invalid problems => exact absurd h (hBlocks hNothing)
  | diff error => exact hError h
  | report error => exact hError h
  | contradiction => exact absurd (hWord.isInfix_of_report h) hWord.contradiction
  | _ => exact absurd h hNothing

end Stopped

/-! ## Command lines that ask for nothing -/

/-- What a run tells of a command line that asks for nothing: what is wrong with it. The
help of a group, and an error that no part of the program answers for, tell of nothing. -/
def Refusal.Tells : Refusal → List Char → Prop
  | usage _ (.value _ .zeroCharacter), _ => False
  | usage _ problem, text => problem.message.toList = text
  | bareGroup _, _ => False

/-- Only a group can be called without any arguments. -/
def Refusal.IsOfGroup (refusal : Refusal) : Prop :=
  ∀ command, refusal = .bareGroup command → command.isGroup = true

section Refused

variable {world : World} {arguments : List String} {refusal : Refusal}

theorem isOfGroup_of_request {request? : Option Request} {command : Command}
    {problem : UsageProblem}
    (h : (match request? with
      | some request => .ok request
      | none => .error (.usage command problem) : Except Refusal Request) = .error refusal) :
    refusal.IsOfGroup := by
  cases request? with
  | some request => cases h
  | none =>
      obtain rfl := Except.error.inj h
      exact fun _ => nofun

theorem isOfGroup_of_readArguments {command : Command}
    (h : readArguments command arguments = .error refusal) : refusal.IsOfGroup := by
  unfold readArguments at h
  cases hRead : readOptions command.options command.isGroup arguments with
  | ok read =>
      rw [hRead] at h
      cases h
  | error problem =>
      rw [hRead] at h
      obtain rfl := Except.error.inj h
      exact fun _ => nofun

theorem isOfGroup_of_readCommand {command : Command}
    {request : Arguments → Except UsageProblem Request}
    (h : readCommand command arguments request = .error refusal) : refusal.IsOfGroup := by
  unfold readCommand at h
  cases hRead : readArguments command arguments with
  | error problem =>
      rw [hRead] at h
      obtain rfl := Except.error.inj h
      exact isOfGroup_of_readArguments hRead
  | ok read =>
      rw [hRead] at h
      simp only [bind, Except.bind] at h
      split at h
      · cases h
      · cases hRequest : request read with
        | error problem =>
            rw [hRequest] at h
            obtain rfl := Except.error.inj h
            exact fun _ => nofun
        | ok asked =>
            simp only [hRequest, Except.mapError] at h
            split at h
            · cases h
            · obtain rfl := Except.error.inj h
              exact fun _ => nofun

/-- A group passes on what its commands are refused for. -/
theorem isOfGroup_of_readGroup {group : Command} (hGroup : group.isGroup = true)
    {call : Arguments → Command → List String → Except Refusal Request}
    (hCall : ∀ read command rest refusal, call read command rest = .error refusal →
      refusal.IsOfGroup)
    (h : readGroup group arguments call = .error refusal) : refusal.IsOfGroup := by
  unfold readGroup at h
  by_cases hEmpty : arguments.isEmpty = true
  · rw [if_pos hEmpty] at h
    obtain rfl : Refusal.bareGroup group = refusal := Except.error.inj h
    rintro _ ⟨⟩
    exact hGroup
  rw [if_neg hEmpty] at h
  cases hRead : readArguments group arguments with
  | error problem =>
      rw [hRead] at h
      obtain rfl := Except.error.inj h
      exact isOfGroup_of_readArguments hRead
  | ok read =>
      rw [hRead] at h
      simp only [pure, Except.pure, bind, Except.bind] at h
      split at h
      · cases h
      · obtain rfl := Except.error.inj h
        exact fun _ => nofun
      · next word rest =>
        -- Only here another command comes in; all else is refused by the group itself.
        split at h
        · exact hCall _ _ _ _ h
        · split at h
          · split at h
            · next problem hAgain =>
              obtain rfl := Except.error.inj h
              exact isOfGroup_of_readArguments hAgain
            · exact isOfGroup_of_request h
          · exact isOfGroup_of_request h

theorem isOfGroup_of_readRequest (h : readRequest world arguments = .error refusal) :
    refusal.IsOfGroup := by
  refine isOfGroup_of_readGroup rfl ?_ h
  intro read command rest refusal hCommand
  split at hCommand
  · exact isOfGroup_of_readCommand hCommand
  · exact isOfGroup_of_readGroup rfl (fun _ _ _ _ => isOfGroup_of_readCommand) hCommand

/-- A run that is refused has such a word in its complaint only if it is in the problem
that it tells of. -/
theorem Refusal.exists_tells_of_complaint {word : List Char} (hWord : IsForeign word)
    (hRefused : readRequest world arguments = .error refusal)
    (h : word <:+: refusal.reply.complaint.toList) :
    ∃ text, refusal.Tells text ∧ word <:+: text := by
  unfold Refusal.reply at h
  split at h
  · exact absurd h hWord.not_isInfix_empty
  · next command problem hOther =>
    refine ⟨problem.message.toList, ?_, hWord.isInfix_of_report h⟩
    unfold Refusal.Tells
    split
    · next hSame =>
      obtain ⟨rfl, rfl⟩ := Refusal.usage.inj hSame
      exact hOther _ rfl
    · next hSame =>
      obtain ⟨rfl, rfl⟩ := Refusal.usage.inj hSame
      rfl
    · next hSame => cases hSame
  · next command =>
    exact absurd h (hWord.not_isInfix_help (isOfGroup_of_readRequest hRefused command rfl))

end Refused

end CommandLine

end PatchCoverage
