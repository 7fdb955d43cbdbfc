import PatchCoverage.Config.Override
import PatchCoverage.Proofs.Config.Loading

namespace PatchCoverage

/-!
# Options on top of a configuration, over whole runs

`Overrides.AppliesTo` says, one setting at a time, what a configuration is once
options are put on top of it.  `Configuration.Made` is every way to come by a
configuration, and `Configuration.overrideAll` puts one set of options after
another on top of it.

Every setting but one is left alone by options that do not name it.  The report
path is derived anew each time, so a path that only an earlier set of options or
the maker of the configuration gave is forgotten.  The main statement is
`overrideAll_leaves_iff`, which says exactly when it is not.
-/

/-! ## What options do -/

/-- Path settings whose directories are in their kept form. -/
structure PathSettings.IsKept (paths : PathSettings) : Prop where
  modulePath : IsDirectory paths.modulePath
  sourceRoot : IsDirectory paths.sourceRoot

theorem PathSettings.isKept_of (modulePath sourceRoot reportPath : String) :
    (PathSettings.of modulePath sourceRoot reportPath).IsKept :=
  ⟨isDirectory_normalizeDirectory modulePath, isDirectory_normalizeDirectory sourceRoot⟩

/-- The report path where no option names one: that of the configuration file,
else the module's own. -/
def Configuration.settledReportPath (configuration : Configuration) : String :=
  if configuration.namedReportPath = "" then
    configuration.paths.modulePath ++ PathSettings.reportSuffix
  else configuration.namedReportPath

namespace Overrides

/-- The report path that options name; an empty one names none. -/
def givenReportPath? (overrides : Overrides) : Option String :=
  overrides.reportPath.filter fun path => !path.isEmpty

/-- What options make of a configuration. -/
structure AppliesTo (overrides : Overrides) (before after : Configuration) : Prop where
  root : after.root = before.root
  baseRef : after.git.baseRef = overrides.baseRef.getD before.git.baseRef
  headRef : after.git.headRef = overrides.headRef.getD before.git.headRef
  repository : after.git.repository = overrides.repository.getD before.git.repository
  threshold : after.coverage.threshold = overrides.threshold.getD before.coverage.threshold
  counterKind :
    after.coverage.counterKind =
      (overrides.counterKind.map upperCase).getD before.coverage.counterKind
  failUnderThreshold :
    after.coverage.failUnderThreshold =
      overrides.failUnderThreshold.getD before.coverage.failUnderThreshold
  modulePath :
    after.paths.modulePath =
      (overrides.modulePath.map normalizeDirectory).getD before.paths.modulePath
  sourceRoot :
    after.paths.sourceRoot =
      (overrides.sourceRoot.map normalizeDirectory).getD before.paths.sourceRoot
  reportPath : after.paths.reportPath = overrides.givenReportPath?.getD after.settledReportPath
  output : after.output = before.output
  raw : after.raw = before.raw

/-- Every setting that options do not name is as before, the report path
apart. -/
structure Leaves (overrides : Overrides) (before after : Configuration) : Prop where
  root : after.root = before.root
  baseRef : overrides.baseRef = none → after.git.baseRef = before.git.baseRef
  headRef : overrides.headRef = none → after.git.headRef = before.git.headRef
  repository : overrides.repository = none → after.git.repository = before.git.repository
  threshold : overrides.threshold = none → after.coverage.threshold = before.coverage.threshold
  counterKind :
    overrides.counterKind = none → after.coverage.counterKind = before.coverage.counterKind
  failUnderThreshold :
    overrides.failUnderThreshold = none →
      after.coverage.failUnderThreshold = before.coverage.failUnderThreshold
  modulePath : overrides.modulePath = none → after.paths.modulePath = before.paths.modulePath
  sourceRoot : overrides.sourceRoot = none → after.paths.sourceRoot = before.paths.sourceRoot
  output : after.output = before.output
  raw : after.raw = before.raw

variable {overrides : Overrides} {before after : Configuration}

theorem AppliesTo.leaves (h : overrides.AppliesTo before after) :
    overrides.Leaves before after where
  root := h.root
  baseRef hNone := by rw [h.baseRef, hNone, Option.getD_none]
  headRef hNone := by rw [h.headRef, hNone, Option.getD_none]
  repository hNone := by rw [h.repository, hNone, Option.getD_none]
  threshold hNone := by rw [h.threshold, hNone, Option.getD_none]
  counterKind hNone := by rw [h.counterKind, hNone, Option.map_none, Option.getD_none]
  failUnderThreshold hNone := by rw [h.failUnderThreshold, hNone, Option.getD_none]
  modulePath hNone := by rw [h.modulePath, hNone, Option.map_none, Option.getD_none]
  sourceRoot hNone := by rw [h.sourceRoot, hNone, Option.map_none, Option.getD_none]
  output := h.output
  raw := h.raw

end Overrides

theorem normalizeDirectory_getD {given? : Option String} {path : String} (h : IsDirectory path) :
    normalizeDirectory (given?.getD path) = (given?.map normalizeDirectory).getD path := by
  cases given? with
  | none => exact normalizeDirectory_of_isDirectory h
  | some given => rfl

/-- A report path that is given is not empty, so it is the one that is kept. -/
theorem PathSettings.reportPath_of_given (modulePath sourceRoot named : String)
    (overrides : Overrides) :
    (PathSettings.of modulePath sourceRoot (overrides.givenReportPath?.getD named)).reportPath =
      overrides.givenReportPath?.getD
        (if named = "" then normalizeDirectory modulePath ++ reportSuffix else named) := by
  rw [reportPath_of]
  cases hGiven : overrides.givenReportPath? with
  | none => rfl
  | some path =>
      obtain ⟨-, hPath⟩ := Option.filter_eq_some_iff.mp hGiven
      exact if_neg (by simpa using hPath)

namespace Configuration

variable {configuration : Configuration}

theorem isKept_override (configuration : Configuration) (overrides : Overrides) :
    (configuration.override overrides).paths.IsKept :=
  PathSettings.isKept_of _ _ _

/-- What one set of options does. -/
theorem appliesTo_override (h : configuration.paths.IsKept) (overrides : Overrides) :
    overrides.AppliesTo configuration (configuration.override overrides) where
  root := rfl
  baseRef := rfl
  headRef := rfl
  repository := rfl
  threshold := rfl
  counterKind := rfl
  failUnderThreshold := rfl
  modulePath := normalizeDirectory_getD h.modulePath
  sourceRoot := normalizeDirectory_getD h.sourceRoot
  reportPath := PathSettings.reportPath_of_given _ _ _ overrides
  output := rfl
  raw := rfl

/-- Without options a configuration with a settled report path stays as it
is. -/
theorem override_of_settled (hKept : configuration.paths.IsKept)
    (hSettled : configuration.paths.reportPath = configuration.settledReportPath) :
    configuration.override {} = configuration := by
  have hPaths : PathSettings.of configuration.paths.modulePath configuration.paths.sourceRoot
      configuration.namedReportPath = configuration.paths :=
    (PathSettings.eq_of (normalizeDirectory_of_isDirectory hKept.modulePath).symm
      (normalizeDirectory_of_isDirectory hKept.sourceRoot).symm hSettled).symm
  calc
    configuration.override {} =
        { configuration with
          paths := .of configuration.paths.modulePath configuration.paths.sourceRoot
            configuration.namedReportPath } := rfl
    _ = configuration := by rw [hPaths]

end Configuration

/-! ## One set of options after another -/

namespace Configuration

/-- The report path that entries of a configuration file name, as a value. -/
def reportPathValue (raw : List (Yaml.Value × Yaml.Value)) : Yaml.Value :=
  settingOr (sectionOf raw "paths") "report_path" (.string "")

/-- Every way to come by a configuration. -/
inductive Made [Limits] : Configuration → Prop
  /-- It was loaded. -/
  | loaded {world : World} {directory : PathName} {configuration : Configuration}
      (hLoaded : (world.loadConfiguration directory).outcome = .ok configuration) :
      Made configuration
  /-- It was put together from settings, with entries whose report path can be
  written as a text. -/
  | constructed (root : String) (coverage : CoverageSettings)
      (modulePath sourceRoot reportPath : String) (git : GitSettings) (output : OutputSettings)
      {raw : List (Yaml.Value × Yaml.Value)}
      (hRaw : (reportPathValue raw).isWritable = true) :
      Made ⟨root, coverage, .of modulePath sourceRoot reportPath, git, output, raw⟩

/-- A configuration after one set of options after another. -/
def overrideAll (configuration : Configuration) (calls : List Overrides) : Configuration :=
  calls.foldl override configuration

variable {configuration : Configuration} {calls : List Overrides}

/-- The report path that the file of a loaded configuration names is the text of
that setting. -/
theorem text_namedReportPath {layers : Layers} {root : String}
    (h : layers.Makes root configuration) :
    layers.text "paths" "report_path" "" = .ok configuration.namedReportPath := by
  obtain ⟨path, hPath, -⟩ := h.reportPath
  have hRaw : configuration.raw = layers.entries := h.raw
  have hNamed : configuration.namedReportPath =
      (layers.value "paths" "report_path" (.string "")).text := by
    rw [namedReportPath, hRaw, layers.settingOr_sectionOf_entries]
  unfold Layers.text Setting.text at hPath ⊢
  split at hPath
  · next hWritable => rw [if_pos hWritable, hNamed]
  · cases hPath

/-- The report path of a loaded configuration is the settled one. -/
theorem settled_of_loaded [Limits] {world : World} {directory : PathName}
    (hLoaded : (world.loadConfiguration directory).outcome = .ok configuration) :
    configuration.paths.reportPath = configuration.settledReportPath := by
  obtain ⟨document, -, hMakes⟩ := World.exists_holdsDocument hLoaded
  obtain ⟨path, hPath, hReportPath⟩ := hMakes.reportPath
  have hNamed : path = configuration.namedReportPath :=
    Except.ok.inj (hPath.symm.trans (text_namedReportPath hMakes))
  rw [hReportPath, hNamed]
  rfl

theorem isKept_of_loaded [Limits] {world : World} {directory : PathName}
    (hLoaded : (world.loadConfiguration directory).outcome = .ok configuration) :
    configuration.paths.IsKept := by
  obtain ⟨document, -, hMakes⟩ := World.exists_holdsDocument hLoaded
  obtain ⟨modulePath, -, hModulePath⟩ := hMakes.modulePath
  obtain ⟨sourceRoot, -, hSourceRoot⟩ := hMakes.sourceRoot
  exact ⟨hModulePath ▸ isDirectory_normalizeDirectory modulePath,
    hSourceRoot ▸ isDirectory_normalizeDirectory sourceRoot⟩

theorem Made.isKept [Limits] (h : configuration.Made) : configuration.paths.IsKept := by
  cases h with
  | loaded hLoaded => exact isKept_of_loaded hLoaded
  | constructed => exact PathSettings.isKept_of _ _ _

theorem overrideAll_concat (configuration : Configuration) (calls : List Overrides)
    (last : Overrides) :
    configuration.overrideAll (calls ++ [last]) =
      (configuration.overrideAll calls).override last :=
  List.foldl_concat ..

/-- However many options were put on top, directories are in their kept form. -/
theorem isKept_overrideAll (h : configuration.paths.IsKept) (calls : List Overrides) :
    (configuration.overrideAll calls).paths.IsKept := by
  induction calls generalizing configuration with
  | nil => exact h
  | cons first rest ih => exact ih (isKept_override configuration first)

/-- Whether the report path after some calls is the settled one: no path that
only the maker or the last call gave. -/
def IsSettledAfter (configuration : Configuration) (calls : List Overrides) : Prop :=
  match calls.getLast? with
  | none => configuration.paths.reportPath = configuration.settledReportPath
  | some last =>
    ∀ path, last.givenReportPath? = some path →
      path = (configuration.overrideAll calls).settledReportPath

theorem isSettledAfter_iff (h : configuration.paths.IsKept) :
    configuration.IsSettledAfter calls ↔
      (configuration.overrideAll calls).paths.reportPath =
        (configuration.overrideAll calls).settledReportPath := by
  rcases List.eq_nil_or_concat' calls with rfl | ⟨earlier, last, rfl⟩
  · rfl
  · have hLast : (configuration.overrideAll (earlier ++ [last])).paths.reportPath =
        last.givenReportPath?.getD
          (configuration.overrideAll (earlier ++ [last])).settledReportPath := by
      rw [overrideAll_concat]
      exact (appliesTo_override (isKept_overrideAll h earlier) last).reportPath
    rw [IsSettledAfter, List.getLast?_concat, hLast]
    cases hGiven : last.givenReportPath? with
    | none => simp [hGiven]
    | some path => simp [hGiven]

/-- Options that name neither a report path nor a module settle the report
path. -/
theorem reportPath_override_of_none (h : configuration.paths.IsKept) {overrides : Overrides}
    (hReport : overrides.givenReportPath? = none) (hModule : overrides.modulePath = none) :
    (configuration.override overrides).paths.reportPath = configuration.settledReportPath := by
  have hApplies := appliesTo_override h overrides
  rw [hApplies.reportPath, hReport, Option.getD_none, settledReportPath, settledReportPath,
    hApplies.leaves.modulePath hModule]
  rfl

end Configuration

/-- However a configuration was made and whatever options were put on top of it,
further options leave every setting alone that they do not name, the report path
apart.  The report path is left alone exactly if it is the settled one. -/
theorem overrideAll_leaves_iff [Limits] {configuration : Configuration}
    (hMade : configuration.Made) (earlier : List Overrides) (overrides : Overrides) :
    let before := configuration.overrideAll earlier
    let after := before.override overrides
    overrides.Leaves before after ∧
      (overrides.givenReportPath? = none → overrides.modulePath = none →
        (after.paths.reportPath = before.paths.reportPath ↔
          configuration.IsSettledAfter earlier)) := by
  intro before after
  have hKept : before.paths.IsKept := Configuration.isKept_overrideAll hMade.isKept earlier
  refine ⟨(Configuration.appliesTo_override hKept overrides).leaves, ?_⟩
  intro hReport hModule
  have hSettled : after.paths.reportPath = before.settledReportPath :=
    Configuration.reportPath_override_of_none hKept hReport hModule
  rw [hSettled, Configuration.isSettledAfter_iff hMade.isKept]
  exact eq_comm

/-- The configuration of a repository for which nothing is given was put
together. -/
theorem Configuration.made_standard (root : String) : (Configuration.standard root).Made :=
  .constructed root .standard PathSettings.defaultModulePath PathSettings.defaultSourceRoot ""
    ⟨"", "", ""⟩ .standard rfl

/-- Two sets of options: a report path, and then a threshold. -/
def reportThenThreshold : Overrides × Overrides :=
  ({ reportPath := some "report.xml" }, { threshold := some (.ofNat 60) })

/-- The report path of the first set is forgotten with the second. -/
theorem overrideAll_leaves_iff_of_reportThenThreshold :
    (Configuration.standard "/").Made ∧
      ¬ (Configuration.standard "/").IsSettledAfter [reportThenThreshold.1] ∧
      ((Configuration.standard "/").overrideAll
        [reportThenThreshold.1, reportThenThreshold.2]).paths.reportPath ≠ "report.xml" := by
  have hMade := Configuration.made_standard "/"
  have hIff := (overrideAll_leaves_iff hMade [reportThenThreshold.1] reportThenThreshold.2).2
    rfl rfl
  have hForgotten : ((Configuration.standard "/").overrideAll
      [reportThenThreshold.1, reportThenThreshold.2]).paths.reportPath ≠ "report.xml" := by
    decide +kernel
  refine ⟨hMade, ?_, hForgotten⟩
  intro hSettled
  exact hForgotten (hIff.mpr hSettled)

/-- Options that name a threshold alone change the report path. -/
theorem reportPath_forgotten :
    ¬ ∀ (configuration : Configuration), configuration.Made →
      ∀ (earlier : List Overrides) (overrides : Overrides),
        overrides.reportPath = none → overrides.modulePath = none →
          ((configuration.overrideAll earlier).override overrides).paths.reportPath =
            (configuration.overrideAll earlier).paths.reportPath := by
  intro hLeaves
  have hSame := hLeaves _ (Configuration.made_standard "/") [reportThenThreshold.1]
    reportThenThreshold.2 rfl rfl
  revert hSame
  decide +kernel

end PatchCoverage
