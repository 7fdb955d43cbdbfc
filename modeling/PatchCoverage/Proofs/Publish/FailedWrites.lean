import PatchCoverage.Proofs.Publish.AddedText
import PatchCoverage.Proofs.Scoring.Average
import PatchCoverage.World.Unlimited

namespace PatchCoverage

/-!
# Writes that fail

A step writes its outputs and its summary, each to a file of its own.  A write succeeds
exactly if its text can be made, its file can be opened and the file has codes for all of
the text, and then the file has its old octets followed by those of the text.

A write that fails adds nothing, but it may have opened its file by then: the file of a
summary is opened before the page is made, and either file is open when a character of
the text turns out to have no code.  So an empty file may stay where there was none.
`opened?` says which file a write opens, and from it `viewAt?_afterWrites` says what every
file holds after any number of writes, some of which may have failed.

The main statement is `failed_write_leaves_files_iff`.
-/

/-- What is written to a file of a step. -/
inductive StepText where
  /-- The block of outputs, whose end is told by a mark. -/
  | outputs (mark : String)
  /-- The page of the summary. -/
  | summary
  deriving DecidableEq

/-- A text that is to be added to a file. -/
structure StepWrite where
  /-- The file. -/
  name : PathName
  /-- What is written. -/
  kind : StepText
  /-- Where the files of the result can be looked at. -/
  target : LinkTarget
  /-- The result. -/
  result : ChangeCoverage

namespace StepWrite

/-- The complete text, if it can be made. -/
def text (write : StepWrite) : Except ArithmeticError String :=
  match write.kind with
  | .outputs mark => StepOutput.block mark write.target write.result
  | .summary => StepSummary.text write.target write.result

/-- Adds the text to the file. -/
def run [Limits] (write : StepWrite) (world : World) : WriteRun :=
  match write.kind with
  | .outputs mark => world.writeOutputs write.name mark write.target write.result
  | .summary => world.writeSummary write.name write.target write.result

/-- The file that a name stands for, with its octets so far, if it can be added to. -/
def file (write : StepWrite) (world : World) : Except FileProblem (List String × List UInt8) :=
  world.fileToAdd write.name

/-- The file that a write opens, with its octets so far.  The file of outputs is opened
only if they can be made. -/
def opened? (write : StepWrite) (world : World) : Option (List String × List UInt8) :=
  match write.kind, write.text with
  | .outputs _, .error _ => none
  | _, _ => (write.file world).toOption

/-- What a write adds to the file that it opens: nothing if there is no text, or no code
for a character of it. -/
def added [Limits] (write : StepWrite) : String :=
  World.gained (write.text.toOption.getD "")

/-! ## One write -/

variable {write : StepWrite} {world : World} {found : List String × List UInt8}
  {path : List String}

theorem opened?_eq_some_iff : write.opened? world = some found ↔
    write.file world = .ok found ∧ (write.kind = .summary ∨ ∃ text, write.text = .ok text) := by
  have hFile : (write.file world).toOption = some found ↔ write.file world = .ok found := by
    cases write.file world <;> simp [Except.toOption]
  cases hKind : write.kind with
  | outputs mark =>
      cases hText : write.text with
      | error error => simp [opened?, hKind, hText]
      | ok text => simp [opened?, hKind, hText, hFile]
  | summary => simp [opened?, hKind, hFile]

/-- What stands at the path of a file that can be added to is this file, if anything. -/
theorem viewAt?_of_file {content : List UInt8} (h : write.file world = .ok (path, content)) :
    world.files.viewAt? path = some (some content) ∨
      world.files.viewAt? path = none ∧ content = [] := by
  obtain ⟨parts, -, hTarget⟩ := bind_eq_ok_iff.mp h
  exact (FileTree.isTarget_of_appendTarget hTarget).viewAt?

section OneWrite

variable [Limits]

/-- A write that opens no file fails and changes nothing. -/
theorem run_of_not_opened (h : write.opened? world = none) :
    (write.run world).error? ≠ none ∧ (write.run world).world = world := by
  have hClosed (hFile : (write.file world).toOption = none) :
      ∃ problem, world.fileToAdd write.name = .error problem := by
    cases hFound : world.fileToAdd write.name with
    | error problem => exact ⟨problem, rfl⟩
    | ok found => simp [file, hFound, Except.toOption] at hFile
  unfold run
  cases hKind : write.kind with
  | outputs mark =>
      cases hBlock : StepOutput.block mark write.target write.result with
      | error error => simp [World.writeOutputs, hBlock]
      | ok block =>
          simp only [opened?, text, hKind, hBlock] at h
          obtain ⟨problem, hProblem⟩ := hClosed h
          simp [World.writeOutputs, hBlock, World.appendText_of_closed hProblem]
  | summary =>
      simp only [opened?, hKind] at h
      obtain ⟨problem, hProblem⟩ := hClosed h
      simp [World.writeSummary, World.appendText_of_closed hProblem]

/-- A write that opens its file adds what it has to it, and fails unless that is all of its
text. -/
theorem run_of_opened (h : write.opened? world = some found) :
    ((write.run world).error? = none ↔
        ∃ text, write.text = .ok text ∧ Limits.writes text = true) ∧
      world.Gains (write.run world).world write.name write.added := by
  obtain ⟨hFile, hMade⟩ := opened?_eq_some_iff.mp h
  have hDone (text : String) :
      (if Limits.writes text then none else some WriteError.encoding) = none ↔
        Limits.writes text = true := by
    split <;> simp_all
  unfold run added
  cases hKind : write.kind with
  | outputs mark =>
      obtain ⟨block, hText⟩ := hMade.resolve_left (by simp [hKind])
      rw [hText]
      simp only [text, hKind] at hText
      obtain ⟨hError, hGains⟩ := World.gains_appendText_of_open hFile block
      simp only [World.writeOutputs, hText, hError, hDone]
      exact ⟨by simp, hGains⟩
  | summary =>
      obtain ⟨hOpens, hOpened⟩ := World.gains_appendText_of_open hFile ""
      rw [if_pos Limits.writes_empty] at hOpens
      simp only [text, hKind, World.writeSummary, hOpens]
      cases hPage : StepSummary.text write.target write.result with
      | error error => exact ⟨by simp, hOpened⟩
      | ok page =>
          -- The name still stands for the file that was opened, so the page goes there.
          obtain ⟨again, hAgain⟩ := hOpened.exists_fileToAdd
          obtain ⟨hError, hGains⟩ := World.gains_appendText_of_open hAgain page
          have hBoth := hOpened.trans hGains
          rw [World.gained, if_pos Limits.writes_empty, String.empty_append] at hBoth
          simp only [hError, hDone]
          exact ⟨by simp, hBoth⟩

/-- A write succeeds exactly if its text can be made and written and its file can be added
to. -/
theorem error?_run_eq_none_iff :
    (write.run world).error? = none ↔
      (∃ text, write.text = .ok text ∧ Limits.writes text = true) ∧
        ∃ found, write.file world = .ok found := by
  cases hOpened : write.opened? world with
  | none =>
      refine iff_of_false (run_of_not_opened hOpened).1 ?_
      rintro ⟨⟨text, hText, -⟩, found, hFile⟩
      rw [opened?_eq_some_iff.mpr ⟨hFile, .inr ⟨text, hText⟩⟩] at hOpened
      cases hOpened
  | some found =>
      have hFile := (opened?_eq_some_iff.mp hOpened).1
      exact (run_of_opened hOpened).1.trans (and_iff_left ⟨found, hFile⟩).symm

/-- A write that succeeds adds its text. -/
theorem gains_of_run (h : (write.run world).error? = none) :
    ∃ text, write.text = .ok text ∧ world.Gains (write.run world).world write.name text := by
  obtain ⟨⟨text, hText, hWrites⟩, found, hFile⟩ := error?_run_eq_none_iff.mp h
  have hGains := (run_of_opened (opened?_eq_some_iff.mpr ⟨hFile, .inr ⟨text, hText⟩⟩)).2
  have hAdded : write.added = text := by
    rw [added, hText]
    exact if_pos hWrites
  exact ⟨text, hText, hAdded ▸ hGains⟩

/-- A write that fails adds nothing. -/
theorem added_of_failed (hOpened : write.opened? world = some found)
    (h : (write.run world).error? ≠ none) : write.added = "" := by
  have hNot := mt (run_of_opened hOpened).1.mpr h
  rw [added]
  cases hText : write.text with
  | error error => exact if_pos Limits.writes_empty
  | ok text => exact if_neg fun hWrites => hNot ⟨text, hText, hWrites⟩

/-- What the file at a path gains from a write, if it is the file that the write opens. -/
def gainedAt? (write : StepWrite) (path : List String) (world : World) : Option (List UInt8) :=
  match write.opened? world with
  | some (target, _) => if path = target then some (encodeUtf8 write.added) else none
  | none => none

end OneWrite

end StepWrite

/-! ## Writes one after the other -/

/-- What stands at a path once the file there has gained octets; nothing changes where
nothing was gained, not even nothing. -/
def gain (view : Option (Option (List UInt8))) : Option (List UInt8) →
    Option (Option (List UInt8))
  | none => view
  | some octets => some (some (view.join.getD [] ++ octets))

theorem gain_gain (view : Option (Option (List UInt8))) (first? second? : Option (List UInt8)) :
    gain (gain view first?) second? = gain view (Option.merge (· ++ ·) first? second?) := by
  cases first? with
  | none => cases second? <;> rfl
  | some first =>
      cases second? with
      | none => rfl
      | some second => simp [gain, Option.merge]

/-- A write changes what stands at a path by what the file there gains. -/
theorem StepWrite.viewAt?_run [Limits] (write : StepWrite) (world : World) (path : List String) :
    (write.run world).world.files.viewAt? path =
      gain (world.files.viewAt? path) (write.gainedAt? path world) := by
  unfold gainedAt?
  cases hOpened : write.opened? world with
  | none => rw [(run_of_not_opened hOpened).2, gain]
  | some found =>
      obtain ⟨target, content, hTarget, hBefore, hAfter, -⟩ := (run_of_opened hOpened).2
      obtain rfl : found = (target, content) :=
        Except.ok.inj ((opened?_eq_some_iff.mp hOpened).1.symm.trans hTarget)
      rw [hAfter]
      dsimp only
      split
      · next hPath =>
        subst hPath
        rcases hBefore with hFile | ⟨hNone, rfl⟩
        · rw [hFile]
          rfl
        · rw [hNone]
          rfl
      · rfl

namespace World

variable [Limits]

/-- The world after writes.  One that fails keeps no later one back. -/
def afterWrites (world : World) (writes : List StepWrite) : World :=
  writes.foldl (fun world write => (write.run world).world) world

/-- What the file at a path gains from writes, if one of them opens it. -/
def gainedAt? (path : List String) : World → List StepWrite → Option (List UInt8)
  | _, [] => none
  | world, write :: writes =>
    Option.merge (· ++ ·) (write.gainedAt? path world)
      ((write.run world).world.gainedAt? path writes)

/-- After any number of writes a file has the octets that it had, followed by those that it
gained; where no file was opened all is as it was. -/
theorem viewAt?_afterWrites (world : World) (writes : List StepWrite) (path : List String) :
    (world.afterWrites writes).files.viewAt? path =
      gain (world.files.viewAt? path) (world.gainedAt? path writes) := by
  induction writes generalizing world with
  | nil => rfl
  | cons write writes ih =>
      -- The first write may have failed; the others start from what it left.
      rw [afterWrites, List.foldl_cons, gainedAt?, ← gain_gain, ← StepWrite.viewAt?_run]
      exact ih (write.run world).world

end World

/-! ## What a failure leaves -/

namespace StepWrite

variable [Limits] {write : StepWrite} {world : World} {path : List String}

/-- The file that a write opens gains what there is of the text. -/
theorem gainedAt?_of_opened {content : List UInt8}
    (h : write.opened? world = some (path, content)) :
    write.gainedAt? path world = some (encodeUtf8 write.added) := by
  rw [gainedAt?, h]
  exact if_pos rfl

/-- A write that fails adds no octets to the file that it opens. -/
theorem gainedAt?_of_failed {octets : List UInt8} (h : (write.run world).error? ≠ none)
    (hGained : write.gainedAt? path world = some octets) :
    octets = [] ∧ ∃ content, write.opened? world = some (path, content) := by
  unfold gainedAt? at hGained
  split at hGained
  · next target content hOpened =>
    split at hGained
    · next hPath =>
      subst hPath
      rw [added_of_failed hOpened h] at hGained
      obtain rfl : encodeUtf8 "" = octets := Option.some.inj hGained
      exact ⟨encodeUtf8_empty, content, hOpened⟩
    · cases hGained
  · cases hGained

/-- A write that fails changes something exactly if it leaves an empty file behind. -/
theorem unchanged_iff (h : (write.run world).error? ≠ none) :
    (∀ path, (write.run world).world.files.viewAt? path = world.files.viewAt? path) ↔
      ¬ ((write.kind = .summary ∨ ∃ text, write.text = .ok text) ∧ ∃ target content,
        write.file world = .ok (target, content) ∧ world.files.viewAt? target = none) := by
  simp only [viewAt?_run]
  constructor
  · -- A file that gained no octets stands there all the same.
    rintro hSame ⟨hMade, target, content, hFile, hNone⟩
    have hThere := hSame target
    rw [gainedAt?_of_opened (opened?_eq_some_iff.mpr ⟨hFile, hMade⟩), hNone] at hThere
    cases hThere
  · intro hNotNew path
    cases hGained : write.gainedAt? path world with
    | none => rfl
    | some octets =>
        obtain ⟨rfl, content, hOpened⟩ := gainedAt?_of_failed h hGained
        obtain ⟨hFile, hMade⟩ := opened?_eq_some_iff.mp hOpened
        -- No octets behind those of a file make no difference.
        rcases viewAt?_of_file hFile with hView | ⟨hNone, -⟩
        · rw [hView, gain, List.append_nil]
          rfl
        · exact absurd ⟨hMade, path, content, hFile, hNone⟩ hNotNew

end StepWrite

/-- A write succeeds exactly if its text can be made and written and its file can be added
to, and then the file has its old octets followed by those of the text.  A write that fails
leaves all files as they were, unless it opened a file that did not exist: one of a summary,
or one of outputs which could be made.  After any number of writes, failed ones among them,
every file has its old octets followed by what it gained. -/
theorem failed_write_leaves_files_iff [Limits] (world : World) (write : StepWrite) :
    ((write.run world).error? = none ↔
        (∃ text, write.text = .ok text ∧ Limits.writes text = true) ∧
          ∃ found, write.file world = .ok found) ∧
      ((write.run world).error? = none → ∃ text, write.text = .ok text ∧
        world.Gains (write.run world).world write.name text) ∧
      ((write.run world).error? ≠ none →
        ((∀ path, (write.run world).world.files.viewAt? path = world.files.viewAt? path) ↔
          ¬ ((write.kind = .summary ∨ ∃ text, write.text = .ok text) ∧ ∃ target content,
            write.file world = .ok (target, content) ∧ world.files.viewAt? target = none))) ∧
      ∀ writes path, (world.afterWrites writes).files.viewAt? path =
        gain (world.files.viewAt? path) (world.gainedAt? path writes) :=
  ⟨StepWrite.error?_run_eq_none_iff, StepWrite.gains_of_run, StepWrite.unchanged_iff,
    fun writes path => world.viewAt?_afterWrites writes path⟩

/-- A scored file whose counters sum to zero, which has no percentage. -/
def resultWithoutPercentage : ChangeCoverage :=
  ⟨["A.java"], .ofNat 50, [⟨"A.java", "A.java", "A", 0, 0, false⟩], []⟩

/-- A step with a summary to which something was written before. -/
def worldOfSummary : World :=
  { environment := ⟨[]⟩
    files := .directory [("summary", .file (encodeUtf8 "Built.\n"))]
    directory := []
    git := none
    input := []
    columns := 80 }

/-- A page that cannot be made, for a file with the given name. -/
def failingSummary (name : String) : StepWrite :=
  ⟨PathName.ofText name, .summary, ⟨"", ""⟩, resultWithoutPercentage⟩

/-- The page cannot be made, and the file keeps what it has; outputs and a page that can be
made stand behind it afterwards. -/
theorem failed_write_leaves_files_of_summary :
    let failing := failingSummary "/summary"
    let later : StepWrite := { failing with result := ⟨[], .ofNat 50, [], []⟩ }
    (failing.run worldOfSummary).error? ≠ none ∧
      (∀ path, (failing.run worldOfSummary).world.files.viewAt? path =
        worldOfSummary.files.viewAt? path) ∧
      (later.run worldOfSummary).error? = none ∧
      (worldOfSummary.afterWrites [failing, later]).files.viewAt? ["summary"] =
        some (some (encodeUtf8
          "Built.\n### Coverage of changed files\n\nNo changed files found.\n")) := by
  intro failing later
  have hFailed : (failing.run worldOfSummary).error? ≠ none := by decide +kernel
  have hDone : (later.run worldOfSummary).error? = none := by decide +kernel
  obtain ⟨-, -, hUnchanged, hAfter⟩ := failed_write_leaves_files_iff worldOfSummary failing
  refine ⟨hFailed, (hUnchanged hFailed).mpr ?_, hDone, ?_⟩
  · rintro ⟨-, target, content, hFile, hNone⟩
    have hTarget : failing.file worldOfSummary = .ok (["summary"], encodeUtf8 "Built.\n") := rfl
    obtain ⟨rfl, rfl⟩ := Prod.mk.inj (Except.ok.inj (hTarget.symm.trans hFile))
    cases hNone
  · rw [hAfter]
    decide +kernel

/-- A page that cannot be made leaves an empty file where there was none. -/
theorem empty_summary_left_behind :
    ¬ ∀ (world : World) (write : StepWrite), (write.run world).error? ≠ none →
      ∀ path, (write.run world).world.files.viewAt? path = world.files.viewAt? path := by
  intro hUnchanged
  have hFailed : ((failingSummary "/fresh").run worldOfSummary).error? ≠ none := by
    decide +kernel
  exact absurd (hUnchanged worldOfSummary (failingSummary "/fresh") hFailed ["fresh"])
    (by decide +kernel)

-- Outputs do so too if the file has no code for a character of theirs.
example :
    let target : LinkTarget := ⟨"o/" ++ String.singleton (halfCharacter firstHalf), "main"⟩
    let result : ChangeCoverage :=
      ⟨["A.java"], .ofNat 50, [⟨"A.java", "A.java", "A", 0, 1, true⟩], []⟩
    let run := @StepWrite.run .utf8 ⟨PathName.ofText "/fresh", .outputs "0", target, result⟩
      worldOfSummary
    run.error? = some .encoding ∧ run.world.files.viewAt? ["fresh"] = some (some []) := by
  decide +kernel

end PatchCoverage
