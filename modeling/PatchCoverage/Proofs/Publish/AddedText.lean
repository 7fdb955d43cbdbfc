import PatchCoverage.Proofs.Text.Utf8
import PatchCoverage.Proofs.World.FileTree
import PatchCoverage.Publish.Files

namespace PatchCoverage

/-!
# Files that gain a text

A text that is added to a file stands behind what the file had, and no other file
changes; texts that are added one after the other are one text.  A file that can be
opened gains a text as a whole, or nothing if it has no code for one of its characters.
Outputs and summary are added in this way whenever they can be made.
-/

namespace World

/-- After a text was added to the end of the named file, all files but this one are as
before. -/
def Gains (before after : World) (name : PathName) (text : String) : Prop :=
  ∃ target content,
    (before.locate name >>= before.files.appendTarget) = .ok (target, content) ∧
    (before.files.viewAt? target = some (some content) ∨
      before.files.viewAt? target = none ∧ content = []) ∧
    (∀ path, after.files.viewAt? path =
      if path = target then some (some (content ++ encodeUtf8 text))
      else before.files.viewAt? path) ∧
    -- The name still stands for the same file, so a further text goes behind this one.
    (after.locate name >>= after.files.appendTarget) = .ok (target, content ++ encodeUtf8 text) ∧
    after = { before with files := after.files }

/-- What a file gains from a text. -/
def gained [Limits] (text : String) : String :=
  if Limits.writes text then text else ""

/-- The file that a name stands for, with its octets so far, if it can be added to. -/
def fileToAdd (world : World) (name : PathName) : Except FileProblem (List String × List UInt8) :=
  world.locate name >>= world.files.appendTarget

variable {before middle after : World} {name : PathName} {text more : String}

theorem append_eq (world : World) (name : PathName) (octets : List UInt8) :
    world.append name octets = (world.fileToAdd name).map fun (target, content) =>
      { world with files := FileTree.put (.file (content ++ octets)) world.files target } := by
  unfold append fileToAdd FileTree.append
  cases world.locate name with
  | error problem => rfl
  | ok parts =>
      simp only [bind, Except.bind]
      cases world.files.appendTarget parts <;> rfl

section AppendText

variable [Limits] {found : List String × List UInt8}

/-- A file that cannot be added to is not opened. -/
theorem appendText_of_closed {problem : FileProblem} (h : before.fileToAdd name = .error problem)
    (text : String) : before.appendText name text = ⟨before, some (.file problem)⟩ := by
  rw [appendText, append_eq, h]
  rfl

/-- A file that can be added to gains what it has codes for. -/
theorem gains_appendText_of_open (h : before.fileToAdd name = .ok found) (text : String) :
    (before.appendText name text).error? =
        (if Limits.writes text then none else some .encoding) ∧
      before.Gains (before.appendText name text).world name (gained text) := by
  obtain ⟨parts, hParts, hTarget⟩ := bind_eq_ok_iff.mp h
  have hOctets : (if Limits.writes text then encodeUtf8 text else []) =
      encodeUtf8 (gained text) := by
    unfold gained
    split
    · rfl
    · exact encodeUtf8_empty.symm
  have hFiles : before.files.append parts (encodeUtf8 (gained text)) =
      .ok (FileTree.put (.file (found.2 ++ encodeUtf8 (gained text))) before.files found.1) := by
    rw [FileTree.append, hTarget]
    rfl
  rw [appendText, hOctets, append_eq, h]
  refine ⟨rfl, ?_⟩
  obtain ⟨target, content, hFound, hBefore, hAfter, hAgain, -⟩ := FileTree.append_effect hFiles
  refine ⟨target, content, ?_, hBefore, hAfter, ?_, rfl⟩
  · rw [hParts]
    exact hFound
  · change (before.locate name >>= _) = _
    rw [hParts]
    exact hAgain

theorem gains_appendText (h : (before.appendText name text).error? = none) :
    Limits.writes text = true ∧ before.Gains (before.appendText name text).world name text := by
  cases hFile : before.fileToAdd name with
  | error problem =>
      rw [appendText_of_closed hFile] at h
      cases h
  | ok found =>
      obtain ⟨hError, hGains⟩ := gains_appendText_of_open hFile text
      cases hWrites : Limits.writes text with
      | false => simp [hError, hWrites] at h
      | true =>
          rw [gained, if_pos hWrites] at hGains
          exact ⟨rfl, hGains⟩

end AppendText

/-- A file that gained a text can be added to. -/
theorem Gains.exists_fileToAdd (h : before.Gains after name text) :
    ∃ found, after.fileToAdd name = .ok found := by
  obtain ⟨target, content, -, -, -, hAgain, -⟩ := h
  exact ⟨_, hAgain⟩

/-- Two texts that are added one after the other are one text. -/
theorem Gains.trans (hFirst : before.Gains middle name text)
    (hSecond : middle.Gains after name more) : before.Gains after name (text ++ more) := by
  obtain ⟨target, content, hTarget, hBefore, hMiddle, hAgain, hWorld⟩ := hFirst
  obtain ⟨target', content', hTarget', -, hAfter, hLast, hWorld'⟩ := hSecond
  obtain ⟨rfl, rfl⟩ := Prod.mk.inj (Except.ok.inj (hAgain.symm.trans hTarget'))
  rw [List.append_assoc, ← encodeUtf8_append] at hAfter hLast
  refine ⟨target, content, hTarget, hBefore, ?_, hLast, ?_⟩
  · intro path
    rw [hAfter path, hMiddle path]
    split <;> rfl
  · rw [hWorld', hWorld]

/-- A text is added to the file that a value names, if there is one; else nothing
changes. -/
def GainsIf (before after : World) (name? : Option PathName) (text : String) : Prop :=
  match name? with
  | some name => before.Gains after name text
  | none => after = before

/-- Adding to a file leaves the environment as it was. -/
theorem GainsIf.environment {name? : Option PathName} (h : before.GainsIf after name? text) :
    after.environment = before.environment := by
  cases name? with
  | none => exact congrArg World.environment h
  | some name =>
      obtain ⟨-, -, -, -, -, -, hWorld⟩ := h
      rw [hWorld]

section Writing

variable [Limits] {target : LinkTarget} {result : ChangeCoverage}

theorem gains_writeOutputs {mark : String}
    (h : (before.writeOutputs name mark target result).error? = none) :
    ∃ block, StepOutput.block mark target result = .ok block ∧ Limits.writes block = true ∧
      before.Gains (before.writeOutputs name mark target result).world name block := by
  unfold writeOutputs at h ⊢
  split at h
  · cases h
  · next block hBlock => exact ⟨block, hBlock, gains_appendText h⟩

theorem gains_writeSummary (h : (before.writeSummary name target result).error? = none) :
    ∃ page, StepSummary.text target result = .ok page ∧ Limits.writes page = true ∧
      before.Gains (before.writeSummary name target result).world name page := by
  unfold writeSummary at h ⊢
  dsimp only at h ⊢
  split at h
  · next error _ hOpened => simp [hOpened] at h
  · cases h
  · next page hOpened hPage =>
    obtain ⟨hWrites, hGains⟩ := gains_appendText h
    have hAdded := (gains_appendText hOpened).2.trans hGains
    rw [String.empty_append] at hAdded
    simpa only [hOpened, hPage] using ⟨page, rfl, hWrites, hAdded⟩

end Writing

end World

end PatchCoverage
