import Mathlib.Data.List.Basic
import PatchCoverage.Proofs.CommandLine.ExitStatus
import PatchCoverage.Proofs.Config.Paths
import PatchCoverage.Proofs.Failure
import PatchCoverage.Proofs.Text.Lines
import PatchCoverage.Proofs.Text.Utf8

namespace PatchCoverage

/-!
# Two sources of changed files

The changed files of a run are the lines that `git` prints or those of a given
text.  Both readers find the same lines: line ends that are unified first are the
same boundaries, and a line is blank for one exactly if nothing remains of it for
the other.  But only the given paths are trimmed.

The main statement is `pathsOfText_of_printed`: a text that `git` prints gives,
when it is given instead, the same paths without the blanks around them, so the
two agree exactly if no printed path has a blank at an end.
-/

/-! ## Trimming -/

/-- Neither the first nor the last character of a text is a blank. -/
def IsTrimmed (text : String) : Prop :=
  ∀ c, text.toList.head? = some c ∨ text.toList.getLast? = some c → isBlank c = false

theorem trimBoth_eq_nil_iff {drop : Char → Bool} {characters : List Char} :
    trimBoth drop characters = [] ↔ characters.all drop = true := by
  constructor
  · intro h
    rw [trimBoth, List.reverse_eq_nil_iff, List.dropWhile_eq_nil_iff] at h
    -- What remains in front of the trimmed end is dropped, but its first character is not.
    have hFront : characters.dropWhile drop = [] := by
      cases hRest : characters.dropWhile drop with
      | nil => rfl
      | cons c rest =>
          have hFirst := List.head?_dropWhile_not drop characters
          rw [hRest] at hFirst h
          have hDropped : drop c = true := h c (by simp)
          simp [hDropped] at hFirst
    rw [List.dropWhile_eq_nil_iff] at hFront
    exact List.all_eq_true.mpr hFront
  · intro h
    rw [trimBoth, List.dropWhile_eq_nil_iff.mpr (List.all_eq_true.mp h)]
    rfl

/-- Nothing remains of a line exactly if it is blank. -/
theorem isEmpty_trimBlank (text : String) : (trimBlank text).isEmpty = isBlankText text := by
  rw [Bool.eq_iff_iff, String.isEmpty_iff, isBlankText, ← trimBoth_eq_nil_iff, trimBlank,
    ← String.toList_eq_nil_iff, String.toList_ofList]

theorem trimBoth_eq_self_iff {drop : Char → Bool} {characters : List Char} :
    trimBoth drop characters = characters ↔
      ∀ c, characters.head? = some c ∨ characters.getLast? = some c → drop c = false := by
  constructor
  · intro h c hEnd
    rcases hEnd with hHead | hLast
    · exact head?_trimBoth (h.symm ▸ hHead)
    · rw [← h, trimBoth, List.getLast?_reverse] at hLast
      have hNot := List.head?_dropWhile_not drop (characters.dropWhile drop).reverse
      rw [hLast] at hNot
      exact hNot
  · intro h
    rcases List.eq_nil_or_concat' characters with rfl | ⟨body, last, rfl⟩
    · rfl
    · exact trimBoth_of_ends (fun c hHead => h c (.inl hHead)) (h last (.inr (by simp)))

theorem trimBlank_eq_self_iff {text : String} : trimBlank text = text ↔ IsTrimmed text := by
  rw [IsTrimmed, ← trimBoth_eq_self_iff, trimBlank, ← String.toList_inj, String.toList_ofList]

/-! ## The two readers -/

/-- The given paths are the listed ones without the blanks around them. -/
theorem pathsOfText_eq_map (text : String) :
    pathsOfText text = (listedPaths text).map trimBlank := by
  have hLines : (fun line => !(trimBlank line).isEmpty) = fun line => !isBlankText line := by
    funext line
    rw [isEmpty_trimBlank]
  calc
    pathsOfText text =
        ((splitLines text).map trimBlank).filter fun path => !path.isEmpty := rfl
    _ = ((splitLines text).filter fun line => !(trimBlank line).isEmpty).map trimBlank :=
      List.filter_map
    _ = (listedPaths text).map trimBlank := by
      rw [hLines, listedPaths, splitLines_unifyNewlines]

theorem map_trimBlank_eq_self_iff {paths : List String} :
    paths.map trimBlank = paths ↔ ∀ path ∈ paths, IsTrimmed path := by
  calc
    paths.map trimBlank = paths ↔ paths.map trimBlank = paths.map id := by rw [List.map_id]
    _ ↔ ∀ path ∈ paths, trimBlank path = path := List.map_eq_map_iff
    _ ↔ ∀ path ∈ paths, IsTrimmed path := forall₂_congr fun path _ => trimBlank_eq_self_iff

/-- With refs that may be used and in a directory, `git` lists the lines that it
prints. -/
theorem World.outcome_gitChanges_of_printed {world : World} {directory : PathName}
    {place : FileTree.Place} {entries : List (String × FileTree)} {base head text : String}
    (hBase : RefProblem.of? base = none) (hHead : RefProblem.of? head = none)
    (hPlace : (world.locate directory >>= world.files.find) = .ok place)
    (hDirectory : place.node = .directory entries)
    (hGit : world.git = some ⟨encodeUtf8 text, 0⟩) :
    (world.gitChanges directory base head).outcome = .ok (listedPaths text) := by
  obtain ⟨trail, node, above⟩ := place
  obtain rfl : node = .directory entries := hDirectory
  simp only [gitChanges, hBase, hHead, hPlace, hGit, Option.or_none, diffOutcome,
    decodeUtf8_encodeUtf8, if_pos]

namespace CommandLine

/-- Standard input that holds a text lists the paths of the text. -/
theorem ChangeList.paths_standardInput {world : World} {text : String}
    (hInput : world.input = encodeUtf8 text) :
    ChangeList.standardInput.paths world = .ok (pathsOfText text) := by
  have hText : decodeText (encodeUtf8 text) = .ok (String.ofList (unifyNewlines text.toList)) := by
    rw [decodeText, decodeUtf8_encodeUtf8]
    rfl
  have hSame : pathsOfText (String.ofList (unifyNewlines text.toList)) = pathsOfText text := by
    rw [pathsOfText, splitLines_unifyNewlines, pathsOfText]
  rw [ChangeList.paths, ChangeList.octets, hInput]
  simp only [mapError_ok, bind, Except.bind, hText, hSame, pure, Except.pure]

/-- Options that take the changed files from standard input. -/
def CheckOptions.withStandardInput (options : CheckOptions) : CheckOptions :=
  { options with changes? := some .standardInput }

/-- Refs that are there are no problem, whether they are needed or not. -/
theorem problems_of_refs {configuration : Configuration} (refsNeeded : Bool)
    (hBase : configuration.git.baseRef.isEmpty = false)
    (hHead : configuration.git.headRef.isEmpty = false) :
    configuration.problems refsNeeded = configuration.problems false := by
  simp [Configuration.problems, hBase, hHead]

theorem isEmpty_of_isRef {ref : String} (h : RefProblem.of? ref = none) : ref.isEmpty = false := by
  by_contra hEmpty
  rw [Bool.not_eq_false, String.isEmpty_iff] at hEmpty
  subst hEmpty
  exact absurd h (by decide)

/-- Options that ask `git` and have what it needs would do as well with a given
list. -/
theorem prepare_withStandardInput {options : CheckOptions} {loaded : Except LoadError Configuration}
    {configuration : Configuration} (h : prepare options loaded = .ok configuration)
    (hBase : configuration.git.baseRef.isEmpty = false)
    (hHead : configuration.git.headRef.isEmpty = false) :
    prepare options.withStandardInput loaded = .ok configuration := by
  cases loaded with
  | error error => cases h
  | ok loaded =>
      cases hBoth : options.failUnder && options.warnOnly with
      | true =>
          rw [prepare_of_contradiction hBoth] at h
          cases h
      | false =>
          rw [prepare_of_consistent hBoth] at h
          by_cases hNone : (options.configurationOn loaded).problems options.changes?.isNone = []
          · rw [if_pos hNone] at h
            obtain rfl := Except.ok.inj h
            rw [problems_of_refs _ hBase hHead] at hNone
            have hSame : (options.withStandardInput.failUnder &&
                options.withStandardInput.warnOnly) = false := hBoth
            rw [prepare_of_consistent hSame]
            exact if_pos hNone
          · rw [if_neg hNone] at h
            cases h

/-- A run whose changed files are listed scores them. -/
theorem examine_of_listed [Limits] {world : World} {options : CheckOptions}
    {configuration : Configuration} {changed : List String}
    (hPrepared : prepare options (world.loadConfiguration options.directory).outcome =
      .ok configuration)
    (hChanged : (listChanges world options configuration).2 = .ok changed) :
    (examine world options).outcome =
      (examineChanges world configuration changed).2.map fun result => (configuration, result) := by
  rw [examine_outcome, hPrepared]
  simp only [bind, Except.bind, hChanged]

end CommandLine

/-! ## Agreement -/

/-- A text that `git` prints, when it is given instead, lists the same paths in the
same order without the blanks around them; the two lists are equal exactly if no
path has a blank at an end.  A run scores what its source lists, so then it does
not matter which of the two it is. -/
theorem pathsOfText_of_printed [Limits] {world : World} {directory : PathName}
    {place : FileTree.Place} {entries : List (String × FileTree)} {base head text : String}
    (hBase : RefProblem.of? base = none) (hHead : RefProblem.of? head = none)
    (hPlace : (world.locate directory >>= world.files.find) = .ok place)
    (hDirectory : place.node = .directory entries)
    (hGit : world.git = some ⟨encodeUtf8 text, 0⟩) :
    ∃ listed, (world.gitChanges directory base head).outcome = .ok listed ∧
      pathsOfText text = listed.map trimBlank ∧
      (pathsOfText text = listed ↔ ∀ path ∈ listed, IsTrimmed path) ∧
      ∀ (options : CommandLine.CheckOptions) (configuration : Configuration),
        options.changes? = none → world.input = encodeUtf8 text →
        CommandLine.prepare options (world.loadConfiguration options.directory).outcome =
          .ok configuration →
        PathName.ofText configuration.root = directory →
        configuration.git.baseRef = base → configuration.git.headRef = head →
        let scored (changed : List String) :=
          (CommandLine.examineChanges world configuration changed).2.map fun result =>
            (configuration, result)
        (CommandLine.examine world options).outcome = scored listed ∧
          (CommandLine.examine world options.withStandardInput).outcome =
            scored (listed.map trimBlank) ∧
          ((∀ path ∈ listed, IsTrimmed path) →
            (CommandLine.examine world options.withStandardInput).outcome =
              (CommandLine.examine world options).outcome) := by
  have hListed := World.outcome_gitChanges_of_printed hBase hHead hPlace hDirectory hGit
  have hGiven := pathsOfText_eq_map text
  refine ⟨listedPaths text, hListed, hGiven, ?_, ?_⟩
  · rw [hGiven]
    exact map_trimBlank_eq_self_iff
  · rintro options configuration hAsks hInput hPrepared rfl rfl rfl scored
    have hFromGit : (CommandLine.listChanges world options configuration).2 =
        .ok (listedPaths text) := by
      simp only [CommandLine.listChanges, hAsks, hListed, CommandLine.mapError_ok]
    have hFromInput : (CommandLine.listChanges world options.withStandardInput configuration).2 =
        .ok ((listedPaths text).map trimBlank) := by
      rw [← hGiven]
      exact CommandLine.ChangeList.paths_standardInput hInput
    have hPlain := CommandLine.examine_of_listed hPrepared hFromGit
    have hOther := CommandLine.examine_of_listed
      (CommandLine.prepare_withStandardInput hPrepared (CommandLine.isEmpty_of_isRef hBase)
        (CommandLine.isEmpty_of_isRef hHead)) hFromInput
    refine ⟨hPlain, hOther, fun hTrimmed => ?_⟩
    rw [hPlain, hOther, map_trimBlank_eq_self_iff.mpr hTrimmed]

/-- A world where `git` prints a text that is on standard input too, with a report
of one class. -/
def worldOfPrinted (text : String) : World :=
  { environment := ⟨[]⟩
    files := .directory [("report.xml", .file (encodeUtf8
      ("<report><package name='p'><class name='p/A' sourcefilename='A.java'>" ++
        "<counter type='LINE' missed='1' covered='3'/></class></package></report>")))]
    directory := []
    git := some ⟨encodeUtf8 text, 0⟩
    input := encodeUtf8 text
    columns := 80 }

/-- Options that compare two refs with that report. -/
def optionsOfTwoRefs : CommandLine.CheckOptions :=
  { directory := PathName.ofText "/"
    overrides :=
      { baseRef := some "main"
        headRef := some "topic"
        modulePath := some ""
        sourceRoot := some "s"
        reportPath := some "report.xml"
        counterKind := some "LINE" }
    failUnder := false
    warnOnly := false
    changes? := none
    asJson := false
    noSetOutput := false }

/-- Line ends of every kind and blank lines make no difference between the two
sources: the same file is scored. -/
theorem pathsOfText_of_printed_with_returns :
    let world := worldOfPrinted "s/p/A.java\r\n \rs/p/B.java\x85"
    ∃ configuration result,
      (CommandLine.examine world optionsOfTwoRefs).outcome = .ok (configuration, result) ∧
        (CommandLine.examine world optionsOfTwoRefs.withStandardInput).outcome =
          .ok (configuration, result) ∧
        result.changedFiles = ["s/p/A.java", "s/p/B.java"] ∧
        result.entries.map ScoredFile.path = ["s/p/A.java"] := by
  intro world
  obtain ⟨⟨configuration, result⟩, hRun, hParts⟩ := exists_of_toOption_map
    (by decide +kernel :
      ((CommandLine.examine world optionsOfTwoRefs).outcome.map fun outcome =>
        (outcome.2.changedFiles, outcome.2.entries.map ScoredFile.path)).toOption =
          some (["s/p/A.java", "s/p/B.java"], ["s/p/A.java"]))
  obtain ⟨settings, hPrepared, hSettings⟩ := exists_of_toOption_map
    (by decide +kernel :
      ((CommandLine.prepare optionsOfTwoRefs
        (world.loadConfiguration optionsOfTwoRefs.directory).outcome).map fun configuration =>
          (configuration.root, configuration.git.baseRef, configuration.git.headRef)).toOption =
        some ("/", "main", "topic"))
  simp only [Prod.mk.injEq] at hSettings hParts
  obtain ⟨hRoot, hBase, hHead⟩ := hSettings
  have hPlace : (world.locate (PathName.ofText "/") >>= world.files.find) =
      .ok ⟨[], world.files, []⟩ := rfl
  obtain ⟨listed, hListed, -, -, hAgree⟩ :=
    pathsOfText_of_printed (by decide : RefProblem.of? "main" = none)
      (by decide : RefProblem.of? "topic" = none) hPlace rfl rfl
  obtain ⟨-, -, hSame⟩ :=
    hAgree optionsOfTwoRefs settings rfl rfl hPrepared (by rw [hRoot]) hBase hHead
  have hPaths : listed = ["s/p/A.java", "s/p/B.java"] := by
    rw [World.outcome_gitChanges_of_printed (by decide) (by decide) rfl rfl rfl] at hListed
    rw [← Except.ok.inj hListed]
    decide +kernel
  have hTrimmed : ∀ path ∈ listed, IsTrimmed path := by
    rw [hPaths, ← map_trimBlank_eq_self_iff]
    decide +kernel
  exact ⟨configuration, result, hRun, (hSame hTrimmed).trans hRun, hParts⟩

/-- A path that begins with a blank is listed with it, but not when it is given. -/
theorem given_path_trimmed :
    let text := " s/p/A.java\n"
    RefProblem.of? "main" = none ∧ RefProblem.of? "topic" = none ∧
      ((worldOfPrinted text).gitChanges (PathName.ofText "/") "main" "topic").outcome =
        .ok [" s/p/A.java"] ∧
      pathsOfText text = ["s/p/A.java"] ∧ pathsOfText text ≠ [" s/p/A.java"] := by
  intro text
  have hListed : ((worldOfPrinted text).gitChanges (PathName.ofText "/") "main" "topic").outcome =
      .ok (listedPaths text) :=
    World.outcome_gitChanges_of_printed (by decide) (by decide) rfl rfl rfl
  have hPaths : listedPaths text = [" s/p/A.java"] := by decide +kernel
  exact ⟨by decide, by decide, hPaths ▸ hListed, by decide +kernel, by decide +kernel⟩

end PatchCoverage
