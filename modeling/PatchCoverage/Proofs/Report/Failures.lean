import PatchCoverage.CommandLine.Check
import PatchCoverage.Proofs.World.Problems
import PatchCoverage.Proofs.Xml.Failures

namespace PatchCoverage

/-!
# Reports that cannot be read

Whoever reads a report gets it or an error with a wording, but for two things:
a name with a zero character, and a document in a character set that cannot be
used.  `IsBlocked` is that exception.

A run also looks for a report in other places when it is not where it should be.
`CanLookFor` says that the looking does not fail.  Main statements:
`answered_readReport_iff` and `exists_reportWarnings_iff`.
-/

/-- A file has no name that can be asked for, or holds a document in a character set
that cannot be used. -/
def World.IsBlocked (world : World) (file : PathName) : Prop :=
  file.hasZero = true ∨
    ∃ octets charset, world.read file = .ok octets ∧
      Xml.declaredCharset? octets = some charset ∧ Xml.IsUnusable charset

theorem ReportError.exists_message_of_unreadable {file : PathName} {problem : FileProblem} :
    (∃ message, (ReportError.unreadable file problem).message? = some message) ↔
      problem ≠ .zeroCharacter := by
  cases problem <;> simp [ReportError.message?]

/-- The reading of octets as a report is answered for exactly if that of a document
is. -/
theorem answered_reportOfOctets_iff (file : PathName) (wording : String) (octets : List UInt8) :
    Answered ReportError.message? (Report.ofOctets file wording octets) ↔
      Answered (Xml.Fault.message? wording) (Xml.Element.ofOctets octets) := by
  unfold Report.ofOctets
  cases Xml.Element.ofOctets octets with
  | error fault =>
      rw [answered_error_iff, answered_error_iff]
      constructor
      · rintro ⟨_, hMessage⟩
        obtain ⟨message, hFault, -⟩ := Option.map_eq_some_iff.mp hMessage
        exact ⟨message, hFault⟩
      · rintro ⟨message, hFault⟩
        exact ⟨_, Option.map_eq_some_iff.mpr ⟨message, hFault, rfl⟩⟩
  | ok root =>
      refine iff_of_true ?_ (answered_ok root)
      exact .ite (answered_ok _) (answered_error_iff.mpr ⟨_, rfl⟩)

/-- The reading of a report is answered for unless the file is blocked. -/
theorem answered_readReport_iff (world : World) (file : PathName) :
    Answered ReportError.message? (world.readReport file) ↔ ¬ world.IsBlocked file := by
  unfold World.readReport World.IsBlocked
  cases hRead : world.read file with
  | error problem =>
      have hZero : world.read file = .error .zeroCharacter ↔ file.hasZero = true :=
        World.read_eq_zeroCharacter_iff
      rw [hRead, Except.error.injEq] at hZero
      rw [answered_error_iff, ReportError.exists_message_of_unreadable, ne_eq, hZero]
      simp
  | ok octets =>
      have hZero : file.hasZero ≠ true := by
        intro hZero
        rw [World.read_eq_zeroCharacter_iff.mpr hZero] at hRead
        cases hRead
      rw [answered_reportOfOctets_iff, Xml.answered_ofOctets_iff]
      simp [hZero]

/-! ## Looking for a report -/

/-- The first file among some names can be told: no name up to it is too long to be
asked for. -/
def World.CanLookFor (world : World) (names : List PathName) : Prop :=
  ∀ before name after, names = before ++ name :: after →
    (∀ other ∈ before, world.isFile other = .ok false) → world.isFile name ≠ .error .nameTooLong

theorem World.canLookFor_cons {world : World} {name : PathName} {names : List PathName} :
    world.CanLookFor (name :: names) ↔ world.isFile name ≠ .error .nameTooLong ∧
      (world.isFile name = .ok false → world.CanLookFor names) := by
  constructor
  · intro h
    refine ⟨h [] name names rfl nofun, fun hNone before other after hNames hBefore => ?_⟩
    refine h (name :: before) other after (congrArg (name :: ·) hNames) ?_
    exact List.forall_mem_cons.mpr ⟨hNone, hBefore⟩
  · rintro ⟨hName, hNames⟩ before other after hSplit hBefore
    cases before with
    | nil =>
        obtain ⟨rfl, -⟩ := List.cons.inj hSplit
        exact hName
    | cons first before =>
        obtain ⟨rfl, hRest⟩ := List.cons.inj hSplit
        obtain ⟨hFirst, hOthers⟩ := List.forall_mem_cons.mp hBefore
        exact hNames hFirst before other after hRest hOthers

theorem World.exists_firstFile?_iff {world : World} {directory : PathName} :
    ∀ {candidates : List String},
      (∃ found, world.firstFile? directory candidates = .ok found) ↔
        world.CanLookFor (candidates.map fun candidate =>
          directory.join (PathName.ofText candidate))
  | [] => by
      refine iff_of_true ⟨none, rfl⟩ ?_
      rintro before name after hNames
      simp at hNames
  | candidate :: candidates => by
      rw [List.map_cons, canLookFor_cons, ← exists_firstFile?_iff, firstFile?]
      rcases world.exists_isFile_or (directory.join (PathName.ofText candidate)) with
        ⟨answer, hAnswer⟩ | hTooLong
      · cases answer with
        | true => simp [hAnswer, bind, Except.bind, pure, Except.pure]
        | false => simp [hAnswer, bind, Except.bind]
      · simp [hTooLong, bind, Except.bind]

namespace CommandLine

/-- Where a run looks for a report: where it should be, and then where build tools
leave it. -/
def reportPlaces (configuration : Configuration) : List PathName :=
  configuration.reportFile :: Report.standardLocations.map fun location =>
    (moduleDirectory configuration).join (PathName.ofText location)

/-- The place of the report has its warnings exactly if a run can look for it. -/
theorem exists_reportWarnings_iff {world : World} {configuration : Configuration} :
    (∃ warnings, reportWarnings world configuration = .ok warnings) ↔
      world.CanLookFor (reportPlaces configuration) := by
  unfold reportPlaces reportWarnings World.detectReport
  rw [World.canLookFor_cons, ← World.exists_firstFile?_iff]
  rcases world.exists_isFile_or configuration.reportFile with ⟨answer, hAnswer⟩ | hTooLong
  · cases answer with
    | true => simp [hAnswer, bind, Except.bind, pure, Except.pure]
    | false =>
        cases world.firstFile? (moduleDirectory configuration) Report.standardLocations with
        | error problem => simp [hAnswer, bind, Except.bind]
        | ok found => simp [hAnswer, bind, Except.bind, pure, Except.pure]
  · simp [hTooLong, bind, Except.bind]

end CommandLine

end PatchCoverage
