import PatchCoverage.Proofs.Config.Sessions
import PatchCoverage.Proofs.Scoring.Join

namespace PatchCoverage

/-!
# The path of a source file

The path of a class's source file is put together from four texts.  Two questions are
answered here: which classes of a report share a path, and for which classes the path
is the one that a list of changed files has.

The name of a source file has no slash, so it is what stands behind the last slash of
the path, and the package is what stands before it (`expectedSourcePath_separates`).

A list of changed files has the path whose parts are those of the source directory, the
components of the package and the name of the file.  `changedFile_known_iff` says that
this is the path that is put together exactly if the package has a name: behind the
source directory of the default package one slash too many is written, and no class of
any report then has the path of the changed file.
-/

/-! ## What a path is made of -/

/-- A dot as a slash, and every other character as it is. -/
def slashForDot (c : Char) : Char :=
  if c = '.' then '/' else c

theorem packageDirectory_eq_map (package : String) :
    packageDirectory package = package.map slashForDot := by
  rw [← String.toList_inj, packageDirectory, String.toList_ofList, String.toList_map]
  rfl

theorem notMem_map_slashForDot (package : String) : '.' ∉ (package.map slashForDot).toList := by
  rw [String.toList_map]
  intro hDot
  obtain ⟨c, -, hC⟩ := List.mem_map.mp hDot
  unfold slashForDot at hC
  split at hC
  · exact absurd hC (by decide)
  · next hNot => exact hNot hC

/-- Texts are cut at their last separator in one way. -/
theorem append_cons_inj_of_notMem {α : Type} {separator : α} {front name other rest : List α}
    (hName : separator ∉ name) (hRest : separator ∉ rest) :
    front ++ separator :: name = other ++ separator :: rest ↔ front = other ∧ name = rest := by
  constructor
  · intro hSame
    have hEnds : separator :: name = separator :: rest := by
      rcases List.suffix_or_suffix_of_suffix (List.suffix_append front (separator :: name))
          (hSame ▸ List.suffix_append other (separator :: rest)) with hEnd | hEnd
      · rcases List.suffix_cons_iff.mp hEnd with hAll | hLater
        · exact hAll
        · exact absurd (hLater.subset List.mem_cons_self) hRest
      · rcases List.suffix_cons_iff.mp hEnd with hAll | hLater
        · exact hAll.symm
        · exact absurd (hLater.subset List.mem_cons_self) hName
    rw [hEnds] at hSame
    exact ⟨List.append_cancel_right hSame, List.tail_eq_of_cons_eq hEnds⟩
  · rintro ⟨rfl, rfl⟩
    rfl

/-- Two source files have the same path exactly if they have the same name and their
packages are the same once dots are slashes.  A dot of the module, of the source
directory or of the file's name stays a dot. -/
theorem expectedSourcePath_separates (modulePath sourceRoot package other : String)
    {sourceName otherName : String} (hName : '/' ∉ sourceName.toList)
    (hOther : '/' ∉ otherName.toList) :
    (expectedSourcePath modulePath sourceRoot package sourceName =
        expectedSourcePath modulePath sourceRoot other otherName ↔
      sourceName = otherName ∧ package.map slashForDot = other.map slashForDot) ∧
    ∃ directory : String, '.' ∉ directory.toList ∧
      expectedSourcePath modulePath sourceRoot package sourceName =
        modulePath ++ sourceRoot ++ directory ++ "/" ++ sourceName := by
  have hPath (package sourceName : String) :
      (expectedSourcePath modulePath sourceRoot package sourceName).toList =
        (modulePath ++ sourceRoot ++ package.map slashForDot).toList ++
          '/' :: sourceName.toList := by
    simp [expectedSourcePath, packageDirectory_eq_map]
  constructor
  · rw [← String.toList_inj, hPath, hPath, append_cons_inj_of_notMem hName hOther,
      String.toList_inj, String.toList_inj, String.append_right_inj, and_comm]
  · exact ⟨package.map slashForDot, notMem_map_slashForDot package,
      by rw [expectedSourcePath, packageDirectory_eq_map]⟩

/-- A package whose name is written with dots is the package whose name is written with
slashes, and another one than that whose last component is in the name of the file. -/
theorem expectedSourcePath_separates_dots :
    '/' ∉ "A.b.java".toList ∧ '/' ∉ "acme.A.b.java".toList ∧
      expectedSourcePath "m.n/" "s/" "com.acme" "A.b.java" =
        expectedSourcePath "m.n/" "s/" "com/acme" "A.b.java" ∧
      expectedSourcePath "m.n/" "s/" "com.acme" "A.b.java" ≠
        expectedSourcePath "m.n/" "s/" "com" "acme.A.b.java" := by
  have hName : '/' ∉ "A.b.java".toList := by decide
  have hOther : '/' ∉ "acme.A.b.java".toList := by decide
  have hPackage : "com.acme".map slashForDot = "com/acme".map slashForDot := by
    rw [← String.toList_inj, String.toList_map, String.toList_map]
    decide
  refine ⟨hName, hOther, ?_, ?_⟩
  · exact (expectedSourcePath_separates "m.n/" "s/" "com.acme" "com/acme" hName hName).1.mpr
      ⟨rfl, hPackage⟩
  · intro hSame
    have hBoth :=
      (expectedSourcePath_separates "m.n/" "s/" "com.acme" "com" hName hOther).1.mp hSame
    exact absurd hBoth.1 (by decide)

/-! ## The path of a changed file -/

/-- What stands between the components of a package's name. -/
def isPackageSeparator (c : Char) : Bool :=
  c == '.' || c == '/'

/-- The components of the name of a package.  The default package has an empty name and
no components. -/
def packageComponents (package : String) : List String :=
  if package = "" then []
  else (package.toList.splitOnP isPackageSeparator).map String.ofList

/-- The name of a package: none of its components is empty. -/
def IsPackage (package : String) : Prop :=
  "" ∉ packageComponents package

instance : DecidablePred IsPackage :=
  fun package => inferInstanceAs (Decidable ("" ∉ packageComponents package))

/-- The name of a file inside its directory. -/
def IsFileName (name : String) : Prop :=
  name ≠ "" ∧ '/' ∉ name.toList

instance : DecidablePred IsFileName :=
  fun name => inferInstanceAs (Decidable (name ≠ "" ∧ '/' ∉ name.toList))

/-- The path of a source file as a list of changed files has it: behind the source
directory of the module, the components of the package and the name of the file with
single slashes between them. -/
def listedPath (paths : PathSettings) (package sourceName : String) : String :=
  paths.modulePath ++ paths.sourceRoot ++
    "/".intercalate (packageComponents package ++ [sourceName])

/-- The parts of a path, between its slashes. -/
def pathParts (path : String) : List (List Char) :=
  path.toList.splitOn '/'

theorem splitOn_map_slashForDot (characters : List Char) :
    (characters.map slashForDot).splitOn '/' = characters.splitOnP isPackageSeparator := by
  induction characters with
  | nil => rfl
  | cons c rest ih =>
      rw [List.map_cons, List.splitOn_eq_splitOnP, List.splitOnP_cons_eq_if_modifyHead,
        ← List.splitOn_eq_splitOnP, ih, List.splitOnP_cons_eq_if_modifyHead]
      by_cases hDot : c = '.'
      · simp [slashForDot, isPackageSeparator, hDot]
      · simp [slashForDot, isPackageSeparator, hDot]

/-- The directory of a package with a name has the components with slashes between
them. -/
theorem packageDirectory_eq_intercalate {package : String} (h : package ≠ "") :
    packageDirectory package = "/".intercalate (packageComponents package) := by
  have hTexts : (List.map String.ofList (package.toList.splitOnP isPackageSeparator)).map
      String.toList = (package.toList.map slashForDot).splitOn '/' := by
    rw [splitOn_map_slashForDot, List.map_map]
    exact List.map_id'' (fun _ => String.toList_ofList) _
  rw [packageDirectory_eq_map, ← String.toList_inj, String.toList_map, String.toList_intercalate,
    packageComponents, if_neg h, hTexts]
  exact (List.intercalate_splitOn '/').symm

theorem packageComponents_eq_nil_iff (package : String) :
    packageComponents package = [] ↔ package = "" := by
  unfold packageComponents
  split
  · simp [*]
  · simp [*, List.splitOnP_ne_nil]

namespace PathSettings

variable {paths : PathSettings} {package sourceName : String}

/-- Behind the source directory of a package with a name stand its components and the
name of the file. -/
theorem expectedSourcePath_eq_listedPath (h : package ≠ "") :
    expectedSourcePath paths.modulePath paths.sourceRoot package sourceName =
      listedPath paths package sourceName := by
  have hComponents : packageComponents package ≠ [] :=
    (packageComponents_eq_nil_iff package).not.mpr h
  rw [expectedSourcePath, listedPath, packageDirectory_eq_intercalate h,
    String.intercalate_append_of_ne_nil hComponents (List.cons_ne_nil _ _),
    String.intercalate_singleton]
  simp only [String.append_assoc]

/-- The listed path of a file of the default package. -/
theorem listedPath_default : listedPath paths "" sourceName =
    paths.modulePath ++ paths.sourceRoot ++ sourceName := by
  rw [listedPath, (packageComponents_eq_nil_iff "").mpr rfl, List.nil_append,
    String.intercalate_singleton]

/-- A file of the default package is listed at a path that is put together for no class,
of whatever package. -/
theorem listedPath_default_ne (hName : IsFileName sourceName) (package other : String) :
    expectedSourcePath paths.modulePath paths.sourceRoot package other ≠
      listedPath paths "" sourceName := by
  rw [listedPath_default, expectedSourcePath]
  intro hSame
  have hEnd : packageDirectory package ++ "/" ++ other = sourceName := by
    simpa only [String.append_assoc, String.append_right_inj] using hSame
  -- The slash in front of the file's name would have to be in the name.
  apply hName.2
  rw [← hEnd]
  simp

end PathSettings

/-! ## Parts of the path -/

/-- A text that is empty or has a slash at its end has an empty last part, and what is
put behind it has its own parts. -/
theorem pathParts_append {base : String} (h : base = "" ∨ ∃ body, base.toList = body ++ ['/'])
    (rest : String) : pathParts (base ++ rest) = (pathParts base).dropLast ++ pathParts rest := by
  unfold pathParts
  rcases h with rfl | ⟨body, hBody⟩
  · simp
  · rw [String.toList_append, hBody, List.append_assoc, List.singleton_append,
      List.splitOn_append_cons_self, List.splitOn_append_cons_self, List.splitOn_nil,
      List.dropLast_concat]

/-- The source directory of a module is empty or has a slash at its end. -/
theorem PathSettings.IsKept.sourceDirectory {paths : PathSettings} (h : paths.IsKept) :
    paths.modulePath ++ paths.sourceRoot = "" ∨
      ∃ body, (paths.modulePath ++ paths.sourceRoot).toList = body ++ ['/'] := by
  rcases h.sourceRoot with hRoot | ⟨body, hRoot, -⟩
  · rw [hRoot, String.append_empty]
    exact h.modulePath.imp_right fun ⟨body, hModule, _⟩ => ⟨body, hModule⟩
  · exact .inr ⟨paths.modulePath.toList ++ body, by
      rw [String.toList_append, hRoot, List.append_assoc]⟩

/-- Behind the parts of the source directory the path of a source file has the pieces of
the package's name and the name of the file. -/
theorem pathParts_expectedSourcePath {paths : PathSettings} (hKept : paths.IsKept)
    (package : String) {sourceName : String} (hName : '/' ∉ sourceName.toList) :
    pathParts (expectedSourcePath paths.modulePath paths.sourceRoot package sourceName) =
      (pathParts (paths.modulePath ++ paths.sourceRoot)).dropLast ++
        (package.toList.splitOnP isPackageSeparator ++ [sourceName.toList]) := by
  have hRest : pathParts (packageDirectory package ++ "/" ++ sourceName) =
      package.toList.splitOnP isPackageSeparator ++ [sourceName.toList] := by
    have hList : (packageDirectory package ++ "/" ++ sourceName).toList =
        package.toList.map slashForDot ++ '/' :: sourceName.toList := by
      simp [packageDirectory_eq_map]
    rw [pathParts, hList, List.splitOn_append_cons_self, splitOn_map_slashForDot,
      List.splitOn_eq_singleton hName]
  have hPath : expectedSourcePath paths.modulePath paths.sourceRoot package sourceName =
      paths.modulePath ++ paths.sourceRoot ++ (packageDirectory package ++ "/" ++ sourceName) := by
    simp only [expectedSourcePath, String.append_assoc]
  rw [hPath, pathParts_append hKept.sourceDirectory, hRest]

theorem nil_mem_splitOnP_iff {package : String} (h : IsPackage package) :
    [] ∈ package.toList.splitOnP isPackageSeparator ↔ package = "" := by
  constructor
  · intro hMem
    by_contra hNamed
    apply h
    rw [packageComponents, if_neg hNamed]
    exact List.mem_map.mpr ⟨[], hMem, rfl⟩
  · rintro rfl
    exact List.mem_singleton_self _

/-! ## Analyses -/

namespace ScoringRules

/-- The paths of a join are those of the matched classes of the report. -/
theorem IsJoin.mem_paths_iff {rules : ScoringRules} {report : Report}
    {changed warnings : List String} {result : ChangeCoverage}
    (h : rules.IsJoin report changed warnings result) (path : String) :
    path ∈ result.entries.map ScoredFile.path ++ result.skipped ↔
      ∃ item ∈ report.classes, rules.Matches changed item ∧ rules.sourcePath item = path := by
  have hEntries : result.entries.map ScoredFile.path =
      (rules.scoredClasses changed report.classes).map rules.sourcePath := by
    have hPaths : List.Forall₂ (fun first second : String => first = second)
        ((rules.scoredClasses changed report.classes).map rules.sourcePath)
        (result.entries.map ScoredFile.path) := by
      rw [List.forall₂_map_left_iff, List.forall₂_map_right_iff]
      exact h.entries.imp fun _ _ hScores => hScores.path.symm
    exact (List.forall₂_eq_eq_eq ▸ hPaths).symm
  rw [hEntries, h.skipped, ← List.map_append, List.mem_map]
  refine exists_congr fun item => ?_
  rw [← and_assoc]
  refine and_congr_left fun _ => ?_
  by_cases hCounts : rules.Counts item <;>
    simp [scoredClasses, skippedClasses, hCounts]

end ScoringRules

/-- A source file of a package with a name has the path that a list of changed files has,
and no empty part comes in behind the source directory, so an analysis knows the changed
file.  A source file of the default package has another path with an empty part, and
the changed file is unknown. -/
theorem changedFile_known_iff {configuration : Configuration}
    (hPaths : configuration.paths.IsFormed) {package sourceName : String}
    (hPackage : IsPackage package) (hName : IsFileName sourceName) :
    let paths := configuration.paths
    let path := expectedSourcePath paths.modulePath paths.sourceRoot package sourceName
    let listed := listedPath paths package sourceName
    (path = listed ↔ package ≠ "") ∧
    ((∃ added, [] ∉ added ∧
        pathParts path = (pathParts (paths.modulePath ++ paths.sourceRoot)).dropLast ++ added) ↔
      package ≠ "") ∧
    ∀ (report : Report) (changed : List String) (result : ChangeCoverage),
      (∃ item ∈ report.classes, item.1.name = package ∧ item.2.sourceName = sourceName) →
        listed ∈ changed →
          (configuration.scoringRules.analyze report changed).outcome = .ok result →
            (listed ∈ result.entries.map ScoredFile.path ++ result.skipped ↔ package ≠ "") := by
  intro paths path listed
  have hNotListed (hDefault : package = "") (other name : String) :
      expectedSourcePath paths.modulePath paths.sourceRoot other name ≠ listed := by
    have hOther : expectedSourcePath paths.modulePath paths.sourceRoot other name ≠
        listedPath paths "" sourceName := PathSettings.listedPath_default_ne hName other name
    rwa [← hDefault] at hOther
  refine ⟨⟨fun hSame hDefault => hNotListed hDefault _ _ hSame,
    PathSettings.expectedSourcePath_eq_listedPath⟩, ?_, ?_⟩
  · have hKept : paths.IsKept := (PathSettings.isFormed_iff.mp hPaths).1
    simp only [path, pathParts_expectedSourcePath hKept package hName.2]
    rw [ne_eq, ← nil_mem_splitOnP_iff hPackage]
    have hNameParts : sourceName.toList ≠ [] := by simpa using hName.1
    constructor
    · rintro ⟨added, hAdded, hParts⟩
      rw [← List.append_cancel_left hParts] at hAdded
      exact fun hMem => hAdded (List.mem_append_left _ hMem)
    · intro hPieces
      refine ⟨_, ?_, rfl⟩
      rw [List.mem_append, List.mem_singleton, not_or]
      exact ⟨hPieces, hNameParts.symm⟩
  · rintro report changed result ⟨item, hItem, rfl, rfl⟩ hChanged hOutcome
    obtain ⟨warnings, hJoin⟩ := ScoringRules.exists_isJoin_of_analyze hOutcome
    rw [hJoin.mem_paths_iff]
    constructor
    · rintro ⟨other, -, -, hPath⟩ hDefault
      exact hNotListed hDefault _ _ hPath
    · intro hNamed
      have hPath : configuration.scoringRules.sourcePath item = listed :=
        PathSettings.expectedSourcePath_eq_listedPath hNamed
      exact ⟨item, hItem, ⟨hName.1, hPath ▸ hChanged⟩, hPath⟩

/-- A configuration of a module `m` with sources in `s`. -/
def configurationOfModule : Configuration :=
  { Configuration.standard "/" with paths := .of "m" "s" "" }

/-- A report with one class, of whose two instructions none is covered. -/
def reportOfPackage (package : String) : Report :=
  ⟨[⟨package, [⟨"A", "A.b.java", [⟨"INSTRUCTION", 2, 0⟩]⟩]⟩]⟩

/-- The change of a file is known where its package is written with a dot and a slash. -/
theorem changedFile_known_of_dottedPackage :
    configurationOfModule.paths.IsFormed ∧ IsPackage "com.acme/util" ∧ IsFileName "A.b.java" ∧
      listedPath configurationOfModule.paths "com.acme/util" "A.b.java" =
        "m/s/com/acme/util/A.b.java" ∧
      ∃ result, (configurationOfModule.scoringRules.analyze (reportOfPackage "com.acme/util")
          ["m/s/com/acme/util/A.b.java"]).outcome = .ok result ∧
        "m/s/com/acme/util/A.b.java" ∈ result.entries.map ScoredFile.path ++ result.skipped := by
  have hPaths : configurationOfModule.paths.IsFormed := PathSettings.isFormed_of "m" "s" ""
  have hPackage : IsPackage "com.acme/util" := by decide
  have hName : IsFileName "A.b.java" := by decide
  have hListed : listedPath configurationOfModule.paths "com.acme/util" "A.b.java" =
      "m/s/com/acme/util/A.b.java" := by decide +kernel
  obtain ⟨result, hOutcome, -⟩ := exists_of_toOption_map
    (by decide +kernel :
      ((configurationOfModule.scoringRules.analyze (reportOfPackage "com.acme/util")
        ["m/s/com/acme/util/A.b.java"]).outcome.map ChangeCoverage.fileCount).toOption = some 1)
  have hKnown := (changedFile_known_iff hPaths hPackage hName).2.2 (reportOfPackage "com.acme/util")
    ["m/s/com/acme/util/A.b.java"] result ⟨_, List.mem_singleton_self _, rfl, rfl⟩
    (hListed ▸ List.mem_singleton_self _) hOutcome
  exact ⟨hPaths, hPackage, hName, hListed, result, hOutcome,
    hListed ▸ hKnown.mpr (by decide)⟩

/-- The path of a file of the default package is not the one that is listed, and its
change is lost: nothing is scored, and nothing is skipped. -/
theorem defaultPackage_unscored :
    (¬ ∀ paths : PathSettings, paths.IsFormed → ∀ package sourceName : String,
      IsPackage package → IsFileName sourceName →
        expectedSourcePath paths.modulePath paths.sourceRoot package sourceName =
          listedPath paths package sourceName) ∧
    ((configurationOfModule.scoringRules.analyze (reportOfPackage "")
      [listedPath configurationOfModule.paths "" "A.b.java"]).outcome.map fun result =>
        (result.changedFiles, result.entries, result.skipped)).toOption =
      some (["m/s/A.b.java"], [], []) := by
  constructor
  · intro hListed
    have hSame := hListed configurationOfModule.paths (PathSettings.isFormed_of "m" "s" "") ""
      "A.b.java" (by decide) (by decide)
    exact absurd hSame (by decide +kernel)
  · decide +kernel

end PatchCoverage
