import Mathlib.Control.Monad.Basic
import PatchCoverage.Proofs.CommandLine.Channel
import PatchCoverage.Proofs.Console.Printable
import PatchCoverage.World.Unlimited

namespace PatchCoverage.CommandLine

/-!
# How a run prints has no influence on how it ends

Three options choose how `check` prints what it found out.  `withoutMode` takes them
out of a command line, just where they are read as options: the value of another
option stays, and so does all behind two dashes.  What two command lines ask for
that are then the same differs in how it is printed and in nothing else, also when
they are refused.

The main statement is `run_of_same_withoutMode`: two such runs start `git` in the
same way or not at all.  They end in the same way and leave the same files behind,
unless the output channel has a code for all that one of them prints and not for all
that the other one does: then it ends that one.  This rests on the reports, neither of
which can fail for another reason.
-/

/-! ## Arguments without flags -/

/-- Whether an option takes the next argument as its value. -/
def takesNext (command : Command) (argument : String) : Bool :=
  isOption argument && (splitOption argument).2.isNone &&
    (command.options.find? (·.name == (splitOption argument).1)).any CommandOption.takesValue

/-- The arguments of a command without some flags.  What becomes of the arguments that
follow its options is told by `called`. -/
def withoutFlags (command : Command) (flags : List String) (called : List String → List String) :
    List String → List String
  | [] => []
  | argument :: rest =>
    if argument = "--" then argument :: called rest
    else if argument ∈ flags then withoutFlags command flags called rest
    else if takesNext command argument then
      match rest with
      | [] => [argument]
      | value :: rest => argument :: value :: withoutFlags command flags called rest
    else if isOption argument || !command.isGroup then
      argument :: withoutFlags command flags called rest
    else called (argument :: rest)

/-- Arguments that were read, without some flags. -/
def Arguments.without (flags : List String) (called : List String → List String)
    (arguments : Arguments) : Arguments :=
  ⟨arguments.options.filter fun option => option.name ∉ flags, called arguments.others⟩

/-- Options of a command that take no value. -/
structure Command.HasFlags (command : Command) (flags : List String) : Prop where
  written : ∀ flag ∈ flags, flag ≠ "--" ∧ isOption flag = true ∧ splitOption flag = (flag, none)
  silent : ∀ flag ∈ flags, ∃ option,
    command.options.find? (·.name == flag) = some option ∧ option.takesValue = false

/-- What may become of the arguments after the options: a word stays in front, and a
command that is no group reads on. -/
structure Command.Calls (command : Command) (called : List String → List String) : Prop where
  nil : called [] = []
  word : ∀ word rest, ∃ others, called (word :: rest) = word :: others
  ofCommand : command.isGroup = false → called = id

theorem splitOption_of_none {argument : String} (h : (splitOption argument).2 = none) :
    splitOption argument = (argument, none) := by
  unfold splitOption at h ⊢
  have hParts := @List.takeWhile_append_dropWhile _ (· != '=') argument.toList
  dsimp only at h ⊢
  cases hRest : argument.toList.dropWhile (· != '=') with
  | nil =>
      rw [hRest, List.append_nil] at hParts
      rw [hParts, String.ofList_toList]
  | cons c rest => simp [hRest] at h

section Reading

variable {command : Command} {flags : List String} {called : List String → List String}
  {argument : String} {value : Option String} {reading : Except OptionProblem Arguments}

theorem map_without_withOption_of_mem (h : argument ∈ flags) :
    (reading.map (Arguments.withOption argument value)).map (Arguments.without flags called) =
      reading.map (Arguments.without flags called) := by
  cases reading with
  | error problem => rfl
  | ok arguments => simp [Except.map, Arguments.withOption, Arguments.without, h]

theorem map_without_withOption_of_notMem (h : argument ∉ flags) :
    (reading.map (Arguments.withOption argument value)).map (Arguments.without flags called) =
      (reading.map (Arguments.without flags called)).map (Arguments.withOption argument value) := by
  cases reading with
  | error problem => rfl
  | ok arguments => simp [Except.map, Arguments.withOption, Arguments.without, h]

theorem map_without_withOther :
    (reading.map (Arguments.withOther argument)).map (Arguments.without flags id) =
      (reading.map (Arguments.without flags id)).map (Arguments.withOther argument) := by
  cases reading <;> rfl

/-- A flag is read as an option without a value. -/
theorem readOptions_of_mem (hFlags : command.HasFlags flags) (h : argument ∈ flags)
    (rest : List String) :
    readOptions command.options command.isGroup (argument :: rest) =
      (readOptions command.options command.isGroup rest).map
        (Arguments.withOption argument none) := by
  obtain ⟨hDashes, hOption, hSplit⟩ := hFlags.written argument h
  obtain ⟨option, hFound, hSilent⟩ := hFlags.silent argument h
  rw [readOptions, if_neg hDashes, if_pos hOption, hSplit]
  simp [hFound, hSilent]

theorem exists_option_of_takesNext (h : takesNext command argument = true) :
    isOption argument = true ∧ splitOption argument = (argument, none) ∧
      ∃ option, command.options.find? (·.name == argument) = some option ∧
        option.takesValue = true := by
  simp only [takesNext, Bool.and_eq_true, Option.isNone_iff_eq_none, Option.any_eq_true] at h
  obtain ⟨⟨hOption, hNone⟩, option, hFound, hTakes⟩ := h
  have hSplit := splitOption_of_none hNone
  rw [hSplit] at hFound
  exact ⟨hOption, hSplit, option, hFound, hTakes⟩

/-- What takes a value is no flag. -/
theorem notMem_of_takesValue (hFlags : command.HasFlags flags) {option : CommandOption}
    (hFound : command.options.find? (·.name == argument) = some option)
    (hTakes : option.takesValue = true) : argument ∉ flags := by
  intro hMem
  obtain ⟨other, hOther, hSilent⟩ := hFlags.silent argument hMem
  obtain rfl := Option.some.inj (hFound.symm.trans hOther)
  exact absurd hTakes (Bool.eq_false_iff.mp hSilent)

/-- An argument that is read by itself: it cannot be read, or it is an option that is
no flag, or it is one of the other arguments of a command. -/
theorem readOptions_alone (hFlags : command.HasFlags flags) (hDashes : argument ≠ "--")
    (hMem : argument ∉ flags) (hNext : takesNext command argument = false)
    (hReads : (isOption argument || !command.isGroup) = true) :
    (∃ problem, ∀ rest,
      readOptions command.options command.isGroup (argument :: rest) = .error problem) ∨
    (∃ name value, name ∉ flags ∧ ∀ rest,
      readOptions command.options command.isGroup (argument :: rest) =
        (readOptions command.options command.isGroup rest).map
          (Arguments.withOption name value)) ∨
    (command.isGroup = false ∧ ∀ rest,
      readOptions command.options command.isGroup (argument :: rest) =
        (readOptions command.options command.isGroup rest).map
          (Arguments.withOther argument)) := by
  cases hOption : isOption argument with
  | false =>
      have hGroup : command.isGroup = false := by simpa [hOption] using hReads
      refine .inr (.inr ⟨hGroup, fun rest => ?_⟩)
      rw [readOptions, if_neg hDashes, hOption, hGroup]
      rfl
  | true =>
      obtain ⟨name, attached, hSplit⟩ : ∃ name attached, splitOption argument = (name, attached) :=
        ⟨_, _, rfl⟩
      cases hFound : command.options.find? (·.name == name) with
      | none =>
          refine .inl ⟨unknownOption (command.options.map CommandOption.name) argument name,
            fun rest => ?_⟩
          rw [readOptions, if_neg hDashes, if_pos hOption, hSplit]
          simp only [hFound]
      | some option =>
          cases hTakes : option.takesValue with
          | true =>
              cases attached with
              | none => simp [takesNext, hOption, hSplit, hFound, hTakes] at hNext
              | some value =>
                  refine .inr (.inl ⟨name, some value, notMem_of_takesValue hFlags hFound hTakes,
                    fun rest => ?_⟩)
                  rw [readOptions, if_neg hDashes, if_pos hOption, hSplit]
                  simp [hFound, hTakes]
          | false =>
              cases attached with
              | some value =>
                  refine .inl ⟨.unexpectedValue name, fun rest => ?_⟩
                  rw [readOptions, if_neg hDashes, if_pos hOption, hSplit]
                  simp [hFound, hTakes]
              | none =>
                  have hName : argument = name := by
                    have hSame := splitOption_of_none (by rw [hSplit])
                    exact (Prod.mk.inj (hSame.symm.trans hSplit)).1
                  refine .inr (.inl ⟨name, none, hName ▸ hMem, fun rest => ?_⟩)
                  rw [readOptions, if_neg hDashes, if_pos hOption, hSplit]
                  simp [hFound, hTakes]

/-- Taking flags out of a command line takes them out of what is read. -/
theorem readOptions_withoutFlags (hFlags : command.HasFlags flags) (hCalls : command.Calls called)
    (arguments : List String) :
    readOptions command.options command.isGroup (withoutFlags command flags called arguments) =
      (readOptions command.options command.isGroup arguments).map
        (Arguments.without flags called) := by
  fun_induction withoutFlags command flags called arguments with
  | case1 =>
      rw [readOptions]
      simp [Except.map, Arguments.without, hCalls.nil]
  | case2 rest =>
      rw [readOptions, readOptions, if_pos rfl, if_pos rfl]
      rfl
  | case3 argument rest hDashes hFlag ih =>
      rw [ih, readOptions_of_mem hFlags hFlag, map_without_withOption_of_mem hFlag]
  | case4 argument hDashes hFlag hNext =>
      obtain ⟨hOption, hSplit, option, hFound, hTakes⟩ := exists_option_of_takesNext hNext
      rw [readOptions, if_neg hDashes, if_pos hOption, hSplit]
      simp [hFound, hTakes, Except.map]
  | case5 argument hDashes hFlag hNext value rest ih =>
      obtain ⟨hOption, hSplit, option, hFound, hTakes⟩ := exists_option_of_takesNext hNext
      have hReads (rest : List String) :
          readOptions command.options command.isGroup (argument :: value :: rest) =
            (readOptions command.options command.isGroup rest).map
              (Arguments.withOption argument (some value)) := by
        rw [readOptions, if_neg hDashes, if_pos hOption, hSplit]
        simp [hFound, hTakes]
      rw [hReads, hReads, map_without_withOption_of_notMem hFlag, ih]
  | case6 argument rest hDashes hFlag hNext hReads ih =>
      rcases readOptions_alone hFlags hDashes hFlag (eq_false_of_ne_true hNext) hReads with
        ⟨problem, hRead⟩ | ⟨name, value, hName, hRead⟩ | ⟨hGroup, hRead⟩
      · rw [hRead, hRead]
        rfl
      · rw [hRead, hRead, map_without_withOption_of_notMem hName, ih]
      · rw [hRead, hRead, ih, hCalls.ofCommand hGroup, map_without_withOther]
  | case7 argument rest hDashes hFlag hNext hReads =>
      obtain ⟨others, hOthers⟩ := hCalls.word argument rest
      simp only [Bool.or_eq_true, Bool.not_eq_true', not_or, Bool.not_eq_true,
        Bool.not_eq_false] at hReads
      obtain ⟨hOption, hGroup⟩ := hReads
      rw [hOthers, readOptions, readOptions, if_neg hDashes, if_neg hDashes, hOption, hGroup]
      simp [Except.map, Arguments.without, hOthers]

theorem readArguments_withoutFlags (hFlags : command.HasFlags flags)
    (hCalls : command.Calls called) (arguments : List String) :
    readArguments command (withoutFlags command flags called arguments) =
      (readArguments command arguments).map (Arguments.without flags called) := by
  rw [readArguments, readArguments, readOptions_withoutFlags hFlags hCalls]
  cases readOptions command.options command.isGroup arguments <;> rfl

end Reading

/-! ## Options that were read -/

theorem eraseDups_filter {α : Type} [DecidableEq α] (keep : α → Bool) (items : List α) :
    (items.filter keep).eraseDups = items.eraseDups.filter keep := by
  generalize hSize : items.length = size
  induction size using Nat.strong_induction_on generalizing items with
  | _ size ih =>
      cases items with
      | nil => rfl
      | cons item items =>
          have hRest := ih (items.filter fun other => !other == item).length
            (by rw [← hSize]; exact Nat.lt_succ_of_le (List.length_filter_le _ _)) _ rfl
          rw [List.eraseDups_cons, List.filter_cons, List.filter_cons, ← hRest]
          split
          · rw [List.eraseDups_cons, List.filter_filter, List.filter_filter]
            simp only [Bool.and_comm]
          · next hDropped =>
            rw [List.filter_filter]
            congr 1
            refine List.filter_congr fun other _ => ?_
            cases hSame : other == item with
            | false => simp
            | true => simp [beq_iff_eq.mp hSame, hDropped]

theorem findSome?_filter_of_none {α β : Type} {keep : α → Bool} {find? : α → Option β}
    {items : List α} (h : ∀ item ∈ items, keep item = false → find? item = none) :
    (items.filter keep).findSome? find? = items.findSome? find? := by
  induction items with
  | nil => rfl
  | cons item items ih =>
      obtain ⟨hItem, hItems⟩ := List.forall_mem_cons.mp h
      rw [List.filter_cons, findSome?_cons_eq_or, ← ih hItems]
      split
      · rw [findSome?_cons_eq_or]
      · next hDropped => rw [hItem (eq_false_of_ne_true hDropped), Option.none_or]

namespace Arguments

variable {arguments : Arguments} {flags : List String} {called : List String → List String}
  {name : String}

theorem names_without :
    (arguments.without flags called).names = arguments.names.filter fun name => name ∉ flags := by
  rw [names, names, ← eraseDups_filter, List.filter_map]
  rfl

theorem value?_without (h : name ∉ flags) :
    (arguments.without flags called).value? name = arguments.value? name := by
  unfold value? without
  rw [← List.filter_reverse, List.find?_filter]
  congr 2
  funext option
  by_cases hName : option.name = name
  · simp [hName, h]
  · simp [hName]

theorem has_without :
    (arguments.without flags called).has name = (decide (name ∉ flags) && arguments.has name) := by
  unfold has without
  rw [List.any_filter]
  by_cases hMem : name ∈ flags
  · rw [decide_eq_false (not_not_intro hMem), Bool.false_and, List.any_eq_false]
    intro option _
    by_cases hName : option.name = name
    · simp [hName, hMem]
    · simp [hName]
  · rw [decide_eq_true hMem, Bool.true_and]
    congr 1
    funext option
    by_cases hName : option.name = name
    · simp [hName, hMem]
    · simp [hName]

theorem earlyRequest?_without (command : Command) (hHelp : helpOption.name ∉ flags)
    (hVersion : versionOption.name ∉ flags) :
    earlyRequest? command (arguments.without flags called) = earlyRequest? command arguments := by
  rw [earlyRequest?, earlyRequest?, names_without]
  refine findSome?_filter_of_none fun name _ hDropped => ?_
  have hMem : name ∈ flags := by simpa using hDropped
  rw [if_neg, if_neg]
  · rintro rfl
    exact hVersion hMem
  · rintro rfl
    exact hHelp hMem

end Arguments

/-! ## Options of `check` -/

/-- The options of `check` on how it prints. -/
def modeFlags : List String := ["--json-output", "--no-set-output"]

/-- Options that print in the usual way. -/
def CheckOptions.withoutMode (options : CheckOptions) : CheckOptions :=
  { options with asJson := false, noSetOutput := false }

/-- Steps that do nothing to a part of a state can leave it out, with the items that
say nothing else. -/
theorem foldlM_filter_map {α σ ε : Type} {step other : σ → α → Except ε σ} {part : σ → σ}
    {keep : α → Bool} {items : List α}
    (hKept : ∀ state, ∀ item ∈ items, keep item = true →
      other (part state) item = (step state item).map part)
    (hDropped : ∀ state, ∀ item ∈ items, keep item = false →
      ∃ after, step state item = .ok after ∧ part after = part state)
    (state : σ) :
    (items.filter keep).foldlM other (part state) = (items.foldlM step state).map part := by
  induction items generalizing state with
  | nil => rfl
  | cons item items ih =>
      have hRest := ih (fun state other hOther => hKept state other (List.mem_cons_of_mem _ hOther))
        fun state other hOther => hDropped state other (List.mem_cons_of_mem _ hOther)
      rw [List.filter_cons, List.foldlM_cons]
      cases hKeep : keep item with
      | true =>
          rw [if_pos rfl, List.foldlM_cons, hKept state item List.mem_cons_self hKeep]
          cases step state item with
          | error error => rfl
          | ok after => exact hRest after
      | false =>
          obtain ⟨after, hAfter, hSame⟩ := hDropped state item List.mem_cons_self hKeep
          rw [if_neg Bool.false_ne_true, hAfter, ← hSame]
          exact hRest after

theorem CheckOptions.setValue_withoutMode (world : World) (options : CheckOptions)
    (name written : String) :
    options.withoutMode.setValue world name written =
      (options.setValue world name written).map CheckOptions.withoutMode := by
  unfold setValue
  split
  case h_1 => cases directoryNamed world written <;> rfl
  case h_8 => cases numberNamed written <;> rfl
  case h_9 => cases counterNamed written <;> rfl
  case h_10 => cases changeListNamed world written <;> rfl
  all_goals rfl

/-- What an option of `check` adds to the options before it. -/
def addOption (world : World) (arguments : Arguments) (options : CheckOptions) (name : String) :
    Except UsageProblem CheckOptions :=
  match arguments.value? name with
  | some written => (options.setValue world name written).mapError (.value name)
  | none => .ok options

theorem addOption_withoutMode {world : World} {arguments : Arguments} {name : String}
    (h : name ∉ modeFlags) (options : CheckOptions) :
    addOption world (arguments.without modeFlags id) options.withoutMode name =
      (addOption world arguments options name).map CheckOptions.withoutMode := by
  rw [addOption, addOption, Arguments.value?_without h]
  split
  · next written _ =>
    rw [CheckOptions.setValue_withoutMode]
    cases options.setValue world name written <;> rfl
  · rfl

theorem addOption_of_mem {world : World} {arguments : Arguments} {name : String}
    (h : name ∈ modeFlags) (options : CheckOptions) :
    addOption world arguments options name = .ok options := by
  unfold addOption
  split
  · simp only [modeFlags, List.mem_cons, List.not_mem_nil, or_false] at h
    rcases h with rfl | rfl <;> rfl
  · rfl

/-- Without the options on how it prints, `check` is asked for the same in the usual
way. -/
theorem checkOptionsOf_without (world : World) (ci : Bool) (arguments : Arguments) :
    checkOptionsOf world false (arguments.without modeFlags id) =
      (checkOptionsOf world ci arguments).map CheckOptions.withoutMode := by
  have hFold (options : CheckOptions) :
      (arguments.names.filter fun name => name ∉ modeFlags).foldlM
          (addOption world (arguments.without modeFlags id)) options.withoutMode =
        (arguments.names.foldlM (addOption world arguments) options).map
          CheckOptions.withoutMode :=
    foldlM_filter_map
      (fun options name _ hKeep => addOption_withoutMode (of_decide_eq_true hKeep) options)
      (fun options name _ hDropped =>
        ⟨options, addOption_of_mem (by simpa using hDropped) options, rfl⟩) options
  have hFlags : "--fail-under" ∉ modeFlags ∧ "--warn-only" ∉ modeFlags ∧
      "--json-output" ∈ modeFlags ∧ "--no-set-output" ∈ modeFlags := by
    decide
  obtain ⟨hFail, hWarn, hJson, hSilent⟩ := hFlags
  unfold checkOptionsOf
  simp only [Arguments.has_without, Arguments.names_without, hFail, hWarn, hJson, hSilent,
    not_true_eq_false, not_false_eq_true, decide_true, decide_false, Bool.true_and,
    Bool.false_and, Bool.or_self]
  exact hFold
    { directory := currentDirectory world
      overrides := {}
      failUnder := arguments.has "--fail-under"
      warnOnly := arguments.has "--warn-only"
      changes? := none
      asJson := ci || arguments.has "--json-output"
      noSetOutput := arguments.has "--no-set-output" }

/-! ## Requests -/

/-- A request that is printed in the usual way. -/
def Request.withoutMode : Request → Request
  | .check options => .check options.withoutMode
  | request => request

/-- The word that the program is called with and what follows it, without the options
of `check` on how it prints. -/
def calledWithoutMode : List String → List String
  | [] => []
  | word :: rest =>
    word :: if word = "check" then withoutFlags .check modeFlags id rest else rest

/-- A command line without the options on how it prints. -/
def withoutMode (arguments : List String) : List String :=
  withoutFlags .program ["--ci"] calledWithoutMode arguments

theorem hasFlags_check : Command.check.HasFlags modeFlags := by
  unfold modeFlags
  refine ⟨?_, ?_⟩
  · decide
  · simp only [List.forall_mem_cons]
    exact ⟨⟨_, rfl, by decide⟩, ⟨_, rfl, by decide⟩, by simp⟩

theorem calls_check : Command.check.Calls id :=
  ⟨rfl, fun _ rest => ⟨rest, rfl⟩, fun _ => rfl⟩

theorem hasFlags_program : Command.program.HasFlags ["--ci"] := by
  refine ⟨?_, ?_⟩
  · decide
  · simp only [List.forall_mem_cons]
    exact ⟨⟨_, rfl, by decide⟩, by simp⟩

theorem calls_program : Command.program.Calls calledWithoutMode :=
  ⟨rfl, fun _ _ => ⟨_, rfl⟩, fun hCommand => absurd hCommand (by decide)⟩

/-- Help and the version are asked for in one way only. -/
theorem withoutMode_of_earlyRequest? {command : Command} {arguments : Arguments}
    {request : Request} (h : earlyRequest? command arguments = some request) :
    request.withoutMode = request := by
  obtain ⟨name, -, hName⟩ := List.exists_of_findSome?_eq_some h
  split at hName
  · obtain rfl := Option.some.inj hName
    rfl
  · split at hName
    · obtain rfl := Option.some.inj hName
      rfl
    · cases hName

theorem readCommand_check_withoutFlags (world : World) (ci : Bool) (rest : List String) :
    readCommand .check (withoutFlags .check modeFlags id rest)
        (fun arguments => (checkOptionsOf world false arguments).map Request.check) =
      (readCommand .check rest
        fun arguments => (checkOptionsOf world ci arguments).map Request.check).map
          Request.withoutMode := by
  unfold readCommand
  rw [readArguments_withoutFlags hasFlags_check calls_check]
  cases readArguments .check rest with
  | error refusal => rfl
  | ok arguments =>
      have hHelp : helpOption.name ∉ modeFlags ∧ versionOption.name ∉ modeFlags := by
        decide
      simp only [Except.map, bind, Except.bind,
        Arguments.earlyRequest?_without .check hHelp.1 hHelp.2]
      cases hEarly : earlyRequest? .check arguments with
      | some request => simp only [withoutMode_of_earlyRequest? hEarly]
      | none =>
          simp only [checkOptionsOf_without world ci]
          cases checkOptionsOf world ci arguments with
          | error problem => rfl
          | ok options =>
              by_cases hOthers : arguments.others.isEmpty = true
              · simp [Except.map, Arguments.without, hOthers, Request.withoutMode]
              · simp [Except.map, Arguments.without, hOthers]

/-- What a group is asked for does not hang on flags that its commands do not look
at, as far as `part` goes. -/
theorem readGroup_withoutFlags {group : Command} {flags : List String}
    {called : List String → List String}
    {call : Arguments → Command → List String → Except Refusal Request}
    {part : Request → Request} {arguments : List String}
    (hFlags : group.HasFlags flags) (hCalls : group.Calls called)
    (hHelp : helpOption.name ∉ flags ∧ versionOption.name ∉ flags)
    (hUnknown : ∀ word rest, group.members.find? (·.word == word) = none →
      called (word :: rest) = word :: rest)
    (hCall : ∀ read word rest others command,
      group.members.find? (·.word == word) = some command →
      called (word :: rest) = word :: others →
      (call (read.without flags called) command others).map part =
        (call read command rest).map part)
    (hSome : withoutFlags group flags called arguments ≠ []) :
    (readGroup group (withoutFlags group flags called arguments) call).map part =
      (readGroup group arguments call).map part := by
  have hNotEmpty : arguments ≠ [] := by
    rintro rfl
    exact hSome rfl
  have hEmpty : (withoutFlags group flags called arguments).isEmpty = false ∧
      arguments.isEmpty = false := by
    simpa using ⟨hSome, hNotEmpty⟩
  unfold readGroup
  rw [hEmpty.1, hEmpty.2, readArguments_withoutFlags hFlags hCalls]
  cases hRead : readArguments group arguments with
  | error refusal => rfl
  | ok read =>
      have hMap : (Except.ok read : Except Refusal Arguments).map (Arguments.without flags called) =
          .ok (read.without flags called) := rfl
      simp only [hMap, bind, Except.bind, Bool.false_eq_true, if_false, pure, Except.pure,
        Arguments.earlyRequest?_without group hHelp.1 hHelp.2]
      cases hRequest : earlyRequest? group read with
      | some request => rfl
      | none =>
          obtain ⟨options, others⟩ := read
          cases others with
          | nil => simp only [Arguments.without, hCalls.nil]
          | cons word rest =>
              obtain ⟨others, hOthers⟩ := hCalls.word word rest
              cases hFound : group.members.find? (·.word == word) with
              | some command =>
                  have hSame :=
                    hCall ⟨options, word :: rest⟩ word rest others command hFound hOthers
                  simpa only [Arguments.without, hOthers, hFound] using hSame
              | none =>
                  have hKept := hUnknown word rest hFound
                  simp only [Arguments.without, hKept, hFound]

/-- What a command line asks for does not hang on the options on how it prints, but
for the printing itself. -/
theorem readRequest_withoutMode (world : World) {arguments : List String}
    (hSome : withoutMode arguments ≠ []) :
    (readRequest world (withoutMode arguments)).map Request.withoutMode =
      (readRequest world arguments).map Request.withoutMode := by
  refine readGroup_withoutFlags hasFlags_program calls_program (by decide) ?_ ?_ hSome
  · intro word rest hFound
    have hCheck : word ≠ "check" := by
      rintro rfl
      exact absurd hFound (by decide)
    rw [calledWithoutMode, if_neg hCheck]
  · intro read word rest others command hFound hOthers
    obtain rfl :
        (if word = "check" then withoutFlags .check modeFlags id rest else rest) = others :=
      (List.cons.inj hOthers).2
    have hWord : command.word = word := by
      simpa using List.find?_some hFound
    have hMember : command = .check ∨ command = .configuration := by
      simpa [Command.members] using List.mem_of_find?_eq_some hFound
    rcases hMember with rfl | rfl
    · obtain rfl : "check" = word := hWord
      have hCi : (read.without ["--ci"] calledWithoutMode).has "--ci" = false := by
        rw [Arguments.has_without]
        rfl
      rw [if_pos rfl]
      dsimp only
      rw [hCi, readCommand_check_withoutFlags world (read.has "--ci")]
      cases readCommand .check rest
          fun arguments => (checkOptionsOf world (read.has "--ci") arguments).map Request.check with
      | error refusal => rfl
      | ok request => cases request <;> rfl
    · have hCheck : word ≠ "check" := by
        rintro rfl
        exact absurd hWord (by decide)
      rw [if_neg hCheck]

/-! ## Runs -/

/-- Runs that differ at most in what they print: they start `git` in the same way or
not at all, warn of the same, end in the same way and leave the same files behind. -/
structure ProgramRun.SameOutcome (first second : ProgramRun) : Prop where
  start? : first.start? = second.start?
  warnings : first.warnings = second.warnings
  ending : first.reply.ending = second.reply.ending
  world : first.world = second.world

/-- Requests that are printed in the usual way are the same, unless they are both for
`check`. -/
theorem Request.eq_or_check_of_same_withoutMode {first second : Request}
    (h : first.withoutMode = second.withoutMode) :
    first = second ∨ ∃ options others, first = .check options ∧ second = .check others ∧
      options.withoutMode = others.withoutMode := by
  cases first <;> cases second <;> simp_all [withoutMode]

section Channel

variable [Limits]

/-- What is found out does not hang on how it is printed. -/
theorem examine_withoutMode (world : World) (options : CheckOptions) :
    examine world options.withoutMode = examine world options :=
  rfl

theorem runCheck_of_same_withoutMode {world : World} (mark : String) {first second : CheckOptions}
    (hPrints : ∀ text, Limits.prints text = true)
    (hSame : first.withoutMode = second.withoutMode)
    (hFit : ∀ configuration result, (examine world first).outcome = .ok (configuration, result) →
      JsonReport.countsFit result = true) :
    (runCheck world mark first).SameOutcome (runCheck world mark second) := by
  have hExamine : examine world first = examine world second := by
    rw [← examine_withoutMode, hSame, examine_withoutMode]
  cases hOutcome : (examine world first).outcome with
  | error stop =>
      rw [runCheck_eq_of_stop mark hOutcome, runCheck_eq_of_stop mark (hExamine ▸ hOutcome),
        hExamine]
      exact ⟨rfl, rfl, rfl, rfl⟩
  | ok outcome =>
      obtain ⟨configuration, result⟩ := outcome
      have hCounts := hFit configuration result hOutcome
      obtain ⟨report, lines, -, -, hFirst⟩ :=
        runCheck_eq_of_printed mark (error?_publishPrinted_ne hPrints _ _ _ _) hOutcome
          fun _ => hCounts
      obtain ⟨other, others, -, -, hSecond⟩ :=
        runCheck_eq_of_printed mark (error?_publishPrinted_ne hPrints _ _ _ _)
          (hExamine ▸ hOutcome) fun _ => hCounts
      rw [hFirst, hSecond, hExamine]
      exact ⟨rfl, rfl, rfl, rfl⟩

theorem carryOut_of_same_withoutMode {world : World} (mark : String) {first second : Request}
    (hPrints : ∀ text, Limits.prints text = true) (hSame : first.withoutMode = second.withoutMode)
    (hFit : ∀ options, first = .check options → ∀ configuration result,
      (examine world options).outcome = .ok (configuration, result) →
      JsonReport.countsFit result = true) :
    (carryOut world mark first).SameOutcome (carryOut world mark second) := by
  rcases Request.eq_or_check_of_same_withoutMode hSame with
    rfl | ⟨options, others, rfl, rfl, hOptions⟩
  · exact ⟨rfl, rfl, rfl, rfl⟩
  · exact runCheck_of_same_withoutMode mark hPrints hOptions (hFit options rfl)

/-- Where every character has a code, how a command line asks a run to print has no
influence on anything else. -/
theorem sameOutcome_of_same_withoutMode {world : World} {mark : String}
    {first second : List String} (hPrints : ∀ text, Limits.prints text = true)
    (hSome : withoutMode first ≠ []) (hSame : withoutMode first = withoutMode second)
    (hFit : ∀ options configuration result,
      readRequest world first = .ok (.check options) →
      (examine world options).outcome = .ok (configuration, result) →
      JsonReport.countsFit result = true) :
    (run world mark first).SameOutcome (run world mark second) := by
  have hRequests : (readRequest world first).map Request.withoutMode =
      (readRequest world second).map Request.withoutMode := by
    rw [← readRequest_withoutMode world hSome, hSame, readRequest_withoutMode world (hSame ▸ hSome)]
  unfold run
  cases hFirst : readRequest world first with
  | error refusal =>
      cases hSecond : readRequest world second with
      | error other =>
          rw [hFirst, hSecond] at hRequests
          obtain rfl : refusal = other := Except.error.inj hRequests
          exact ⟨rfl, rfl, rfl, rfl⟩
      | ok request =>
          rw [hFirst, hSecond] at hRequests
          cases hRequests
  | ok request =>
      cases hSecond : readRequest world second with
      | error refusal =>
          rw [hFirst, hSecond] at hRequests
          cases hRequests
      | ok other =>
          rw [hFirst, hSecond] at hRequests
          have hSameRequest : request.withoutMode = other.withoutMode := Except.ok.inj hRequests
          exact carryOut_of_same_withoutMode mark hPrints hSameRequest
            fun options hCheck configuration result =>
              hFit options configuration result (by rw [hFirst, hCheck])

/-- Whether the output channel has a code for all that a run prints where every character
has one. -/
def printsAll (world : World) (mark : String) (arguments : List String) : Bool :=
  Limits.prints (@run Limits.withEveryCode world mark arguments).reply.printed

/-- How a command line asks a run to print has no influence on anything else, as far as the
output channel goes.  Of two command lines that are the same without `--ci`,
`--json-output` and `--no-set-output`, both runs start `git` in the same way or not at all
and warn of the same, if the counts of what they score have few enough digits to be
written.  They end in the same way and leave the same files behind if the channel has a
code for all that they print, or lacks one for both.  A run that it lacks a code for ends
there and leaves everything as it was. -/
theorem run_of_same_withoutMode {world : World} {mark : String} {first second : List String}
    (hSome : withoutMode first ≠ []) (hSame : withoutMode first = withoutMode second)
    (hFit : ∀ options configuration result,
      readRequest world first = .ok (.check options) →
      (examine world options).outcome = .ok (configuration, result) →
      JsonReport.countsFit result = true) :
    (run world mark first).start? = (run world mark second).start? ∧
      (run world mark first).warnings = (run world mark second).warnings ∧
      (printsAll world mark first = printsAll world mark second →
        (run world mark first).SameOutcome (run world mark second)) ∧
      ∀ arguments ∈ [first, second], printsAll world mark arguments = false →
        (run world mark arguments).reply.ending = .uncaught .encoding ∧
          (run world mark arguments).world = world := by
  -- Each run is compared with itself on a channel that ends none.
  have hFull := @sameOutcome_of_same_withoutMode Limits.withEveryCode world mark first second
    Limits.prints_withEveryCode hSome hSame hFit
  have hFirst := isCarried_run world mark first
  have hSecond := isCarried_run world mark second
  have hStart : (run world mark first).start? = (run world mark second).start? := by
    rw [hFirst.start?, hFull.start?, hSecond.start?]
  have hWarnings : (run world mark first).warnings = (run world mark second).warnings := by
    rw [hFirst.warnings, hFull.warnings, hSecond.warnings]
  refine ⟨hStart, hWarnings, fun hAlike => ?_, fun arguments _ => ?_⟩
  · cases hAll : printsAll world mark first with
    | true =>
        rw [hFirst.whole hAll, hSecond.whole (hAlike.symm.trans hAll)]
        exact hFull
    | false =>
        obtain ⟨hEnding, hWorld⟩ := hFirst.cut hAll
        obtain ⟨hOther, hSameWorld⟩ := hSecond.cut (hAlike.symm.trans hAll)
        exact ⟨hStart, hWarnings, hEnding.trans hOther.symm, hWorld.trans hSameWorld.symm⟩
  · exact (isCarried_run world mark arguments).cut

end Channel

/-- A world with a report of one class, whose file is named like a closing tag, and
with a file for the outputs of a step. -/
def worldOfTaggedPath : World :=
  { environment := ⟨[("GITHUB_OUTPUT", "/outputs")]⟩
    files := .directory
      [("report.xml", .file (encodeUtf8
        ("<report><package name='p'><class name='p/A' sourcefilename='[/red].java'>" ++
          "<counter type='INSTRUCTION' missed='3' covered='1'/></class></package></report>")))]
    directory := []
    git := none
    input := encodeUtf8 "m/s/p/[/red].java\n"
    columns := 80 }

/-- A command line that scores that file. -/
def taggedPathArguments : List String :=
  ["check", "--changed-files", "-", "--report", "report.xml", "--module-path", "m",
    "--source-root", "s"]

/-- The outputs on that file. -/
def taggedPathOutputs : String :=
  "overall=25.00%\nchanged-files=1\nfile-coverage<<ghadelimiter_0\n" ++
    "| [/red].java | 25.00% | ❌ |\nghadelimiter_0\n"

/-- The file falls below the threshold on the terminal as it does in JSON, and its
outputs are the same. -/
theorem run_of_same_withoutMode_of_taggedPath :
    let quiet := "--ci" :: taggedPathArguments ++ ["--no-set-output"]
    withoutMode taggedPathArguments ≠ [] ∧
      withoutMode taggedPathArguments = withoutMode quiet ∧
      (run worldOfTaggedPath "0" taggedPathArguments).SameOutcome
        (run worldOfTaggedPath "0" quiet) ∧
      (run worldOfTaggedPath "0" taggedPathArguments).reply.ending = .exit 1 ∧
      (run worldOfTaggedPath "0" taggedPathArguments).world.read (PathName.ofText "/outputs") =
        .ok (encodeUtf8 taggedPathOutputs) := by
  intro quiet
  have hSome : withoutMode taggedPathArguments ≠ [] := by
    decide +kernel
  have hSame : withoutMode taggedPathArguments = withoutMode quiet := by
    decide +kernel
  have hCounts : (scored? worldOfTaggedPath taggedPathArguments).any
      (fun scored => JsonReport.countsFit scored.result) = true := by
    decide +kernel
  have hFit : ∀ options configuration result,
      readRequest worldOfTaggedPath taggedPathArguments = .ok (.check options) →
      (examine worldOfTaggedPath options).outcome = .ok (configuration, result) →
      JsonReport.countsFit result = true := by
    intro options configuration result hRequest hOutcome
    simpa [scored?, hRequest, hOutcome, Except.toOption] using hCounts
  have hAll (arguments : List String) : printsAll worldOfTaggedPath "0" arguments = true :=
    Limits.prints_unlimited _
  obtain ⟨-, -, hAlike, -⟩ :=
    @run_of_same_withoutMode _ worldOfTaggedPath "0" _ _ hSome hSame hFit
  have hRuns : (run worldOfTaggedPath "0" taggedPathArguments).SameOutcome
      (run worldOfTaggedPath "0" quiet) :=
    hAlike ((hAll _).trans (hAll _).symm)
  have hQuiet : (run worldOfTaggedPath "0" quiet).reply.ending = .exit 1 ∧
      (run worldOfTaggedPath "0" quiet).world.read (PathName.ofText "/outputs") =
        .ok (encodeUtf8 taggedPathOutputs) := by
    refine of_decide_eq_true (run_of_scored? (fun ending after =>
      decide (ending = .exit 1 ∧
        after.read (PathName.ofText "/outputs") = .ok (encodeUtf8 taggedPathOutputs))) ?_)
    decide +kernel
  obtain ⟨hEnding, hFile⟩ := hQuiet
  exact ⟨hSome, hSame, hRuns, hRuns.ending.trans hEnding, by rw [hRuns.world, hFile]⟩

/-! ### A run that a character ends -/

section Endings

open Console

variable [Limits] {world : World} {options : CheckOptions} {configuration : Configuration}
  {result : ChangeCoverage}

/-- A document that the channel lacks a code for ends the run that prints it. -/
theorem ending_runCheck_of_document (mark : String) {document : Json}
    (hOutcome : (examine world options).outcome = .ok (configuration, result))
    (hJson : options.asJson = true)
    (hFit : JsonReport.countsFit result = true)
    (hDocument : JsonReport.document (linkTarget configuration) result = .ok document)
    (hText : (document.write .unicode 0).all Limits.canPrint = false) :
    (runCheck world mark options).reply.ending = .uncaught .encoding := by
  rcases runCheck_eq_or mark hOutcome fun _ => hFit with ⟨report, lines, hReport, -, -⟩ | ⟨-, hRun⟩
  · have hPrints : Limits.prints (document.text .unicode ++ "\n") = false := by
      rw [Limits.prints_append, Limits.prints, Json.text, String.toList_ofList, hText]
      rfl
    have hError : (publishReport options.asJson (linkTarget configuration) result world).error? =
        some .encoding := by
      rw [publishReport, if_pos hJson, JsonReport.text, hDocument]
      simp only [hFit, if_true, mapError_ok]
      have hPrinted : printTexts [document.text .unicode ++ "\n"] = ⟨"", some .encoding⟩ :=
        Printed.cons_of_not_prints hPrints _
      exact congrArg (fun printed => (Publication.ofPrinted (.ok printed) world).error?) hPrinted
    rw [hReport] at hError
    cases hError
  · rw [hRun]

/-- A report in characters that the channel has codes for ends no run. -/
theorem ending_runCheck_of_blocks {mark : String} {report : List Block}
    (hOutcome : (examine world options).outcome = .ok (configuration, result))
    (hMode : options.asJson = false ∧ options.noSetOutput = true)
    (hReport : TerminalReport.blocks result = .ok report)
    (hOwn : Printable ownCharacters)
    (hMessages : ∀ block ∈ report, ∀ message ∈ block.messages,
      ShowsPrintable world.terminal.emoji message)
    (hWritten : (publishFiles world mark configuration result).error? = none) :
    (runCheck world mark options).reply.ending = endingOf configuration result := by
  obtain ⟨hTerminal, hQuiet⟩ := hMode
  rcases runCheck_eq_or mark hOutcome (by simp [hTerminal]) with
    ⟨shown, lines, -, -, hRun⟩ | ⟨hError, -⟩
  · rw [hRun, hWritten]
  · obtain ⟨other, hSame, hShown⟩ :=
      TerminalReport.exists_blocks_isShown (exists_percentage_of_examine hOutcome)
    obtain rfl := Except.ok.inj (hReport.symm.trans hSame)
    have hPrinted := error?_print_of_printable hOwn hShown hMessages
    have hNone : (publishReport options.asJson (linkTarget configuration) result world).error? =
        none := by
      rw [publishReport, hTerminal, if_neg Bool.false_ne_true, hReport]
      exact congrArg (Option.map Uncaught.ofPrint) hPrinted
    have hLines : printsLines options configuration = false := by
      simp [printsLines, hQuiet]
    rw [publishPrinted, Publication.andThen, hNone, hLines] at hError
    cases hError

end Endings

/-- A world with half of a pair in the name of the repository, and with a report of one
class. -/
def worldOfHalfPair : World :=
  { environment := ⟨[]⟩
    files := .directory
      [(".diffcov.yml", .file (encodeUtf8
          "git:\n  repository: \"o/\\ud800\"\n  head_ref: main\n")),
        ("jacoco.xml", .file (encodeUtf8
          ("<report><package name='p'><class name='p/A' sourcefilename='A.java'>" ++
            "<counter type='INSTRUCTION' missed='1' covered='9'/></class></package></report>")))]
    directory := []
    git := none
    input := encodeUtf8 "m/s/p/A.java\n"
    columns := 80 }

/-- A command line that scores that class. -/
def halfPairArguments : List String :=
  ["check", "--changed-files", "-", "--report", "jacoco.xml", "--module-path", "m",
    "--source-root", "s"]

/-- What that command line asks for, with the report in JSON or without commands. -/
def halfPairOptions (asJson : Bool) : CheckOptions :=
  { directory := PathName.ofText "/"
    overrides :=
      { modulePath := some "m"
        sourceRoot := some "s"
        reportPath := some "jacoco.xml" }
    failUnder := false
    warnOnly := false
    changes? := some .standardInput
    asJson := asJson
    noSetOutput := !asJson }

/-- Whether blocks have no half in their messages. -/
def lackHalves (report : List Console.Block) : Bool :=
  report.all fun block => block.messages.all fun message => message.toList.all (!isHalf ·)

/-- In UTF-8 the half ends the run that prints a document with the address of the file in
it, and not the run that prints no addresses. -/
theorem mode_decides_of_halfPair :
    let quiet := halfPairArguments ++ ["--no-set-output"]
    let json := halfPairArguments ++ ["--json-output"]
    withoutMode quiet = withoutMode json ∧
      (∃ options configuration result,
        readRequest worldOfHalfPair quiet = .ok (.check options) ∧
        (@examine Limits.utf8 worldOfHalfPair options).outcome = .ok (configuration, result) ∧
        JsonReport.countsFit result = true) ∧
      (@run Limits.utf8 worldOfHalfPair "" quiet).reply.ending = .exit 0 ∧
      (@run Limits.utf8 worldOfHalfPair "" json).reply.ending = .uncaught .encoding := by
  intro quiet json
  have hSame : withoutMode quiet = withoutMode json := by
    decide +kernel
  have hQuiet : readRequest worldOfHalfPair quiet = .ok (.check (halfPairOptions false)) := by
    decide +kernel
  have hJson : readRequest worldOfHalfPair json = .ok (.check (halfPairOptions true)) := by
    decide +kernel
  obtain ⟨⟨configuration, result⟩, hOutcome, hTest⟩ := exists_of_toOption_map
    (by decide +kernel : ((@examine Limits.utf8 worldOfHalfPair (halfPairOptions false)).outcome.map
      fun found => (
        (@publishFiles Limits.utf8 worldOfHalfPair "" found.1 found.2).error?,
        JsonReport.countsFit found.2,
        endingOf found.1 found.2,
        ((TerminalReport.blocks found.2).map lackHalves).toOption,
        ((JsonReport.document (linkTarget found.1) found.2).map fun document =>
          (document.write .unicode 0).all (!isHalf ·)).toOption)).toOption =
      some (none, true, .exit 0, some true, some false))
  simp only [Prod.mk.injEq] at hTest
  obtain ⟨hWritten, hFit, hStatus, hBlocks, hHalf⟩ := hTest
  obtain ⟨report, hReport, hLacks⟩ := exists_of_toOption_map hBlocks
  obtain ⟨document, hDocument, hText⟩ := exists_of_toOption_map hHalf
  -- The other run finds out the same.
  have hFound : (@examine Limits.utf8 worldOfHalfPair (halfPairOptions true)).outcome =
      .ok (configuration, result) := by
    have hAlike : (halfPairOptions true).withoutMode = (halfPairOptions false).withoutMode := rfl
    rw [← @examine_withoutMode Limits.utf8, hAlike, @examine_withoutMode Limits.utf8]
    exact hOutcome
  have hMessages : ∀ block ∈ report, ∀ message ∈ block.messages,
      @Console.ShowsPrintable Limits.utf8 .empty message := by
    intro block hBlock message hMessage
    simp only [lackHalves, List.all_eq_true] at hLacks
    exact @Console.showsPrintable_of_printable Limits.utf8 message
      (hLacks block hBlock message hMessage)
  refine ⟨hSame, ⟨_, configuration, result, hQuiet, hOutcome, hFit⟩, ?_, ?_⟩
  · rw [@run_of_check Limits.utf8 _ _ _ hQuiet, ← hStatus]
    exact @ending_runCheck_of_blocks Limits.utf8 _ _ _ _ _ _ hOutcome ⟨rfl, rfl⟩ hReport
      (List.all_eq_true.mp (by decide)) hMessages hWritten
  · rw [@run_of_check Limits.utf8 _ _ _ hJson]
    exact @ending_runCheck_of_document Limits.utf8 _ _ _ _ "" _ hFound rfl hFit hDocument hText

end PatchCoverage.CommandLine
