import PatchCoverage.Proofs.CommandLine.ExitStatus
import PatchCoverage.Proofs.Config.Override

namespace PatchCoverage.CommandLine

/-!
# Options of the command line on top of a loaded configuration

An option goes before the configuration file, and the file before a default; the
report path without either follows the module that is in effect in the end.

The main statement is `options_on_loaded`.  Its last part compares two commands:
`check` without options about the configuration has the very problems that
`config validate` reports.
-/

/-- Options of `check` that say nothing about the configuration and leave the
list of changed files to `git`. -/
structure CheckOptions.IsPlain (options : CheckOptions) : Prop where
  overrides : options.overrides = {}
  failUnder : options.failUnder = false
  warnOnly : options.warnOnly = false
  changes? : options.changes? = none

/-- The options of a bare `check`. -/
def bareCheck (world : World) : CheckOptions :=
  { directory := currentDirectory world
    overrides := {}
    failUnder := false
    warnOnly := false
    changes? := none
    asJson := false
    noSetOutput := false }

theorem isPlain_bareCheck (world : World) : (bareCheck world).IsPlain :=
  ⟨rfl, rfl, rfl, rfl⟩

theorem readRequest_check (world : World) :
    readRequest world ["check"] = .ok (.check (bareCheck world)) := by
  rfl

theorem readRequest_validate (world : World) :
    readRequest world ["config", "validate"] =
      .ok (.validateConfiguration (bareCheck world).directory) := by
  rfl

/-- Plain options leave a loaded configuration as it is. -/
theorem prepare_of_isPlain {options : CheckOptions} {loaded : Configuration}
    (hPlain : options.IsPlain) (hSame : loaded.override {} = loaded) :
    prepare options (.ok loaded) =
      if loaded.problems true = [] then .ok loaded
      else .error (.invalid (loaded.problems true)) := by
  have hConsistent : (options.failUnder && options.warnOnly) = false := by
    rw [hPlain.failUnder, Bool.false_and]
  have hConfiguration : options.configurationOn loaded = loaded := by
    unfold CheckOptions.configurationOn
    rw [hPlain.overrides, hPlain.failUnder, hPlain.warnOnly]
    exact hSame
  rw [prepare_of_consistent hConsistent, hConfiguration, hPlain.changes?]
  rfl

/-- What options make of a loaded configuration: every option goes before the
file, and a report path that neither gives is that of the module in effect.
Without options nothing changes, and a plain `check` finds the problems that
`config validate` reports. -/
theorem options_on_loaded [Limits] {world : World} {directory : PathName} {loaded : Configuration}
    (hLoaded : (world.loadConfiguration directory).outcome = .ok loaded) :
    (∃ document named, world.HoldsDocument directory document ∧
      (Layers.mk world.environment document).text "paths" "report_path" "" = .ok named ∧
      ∀ overrides : Overrides,
        let configuration := loaded.override overrides
        overrides.AppliesTo loaded configuration ∧
          configuration.paths.reportPath = overrides.givenReportPath?.getD
            (if named = "" then configuration.paths.modulePath ++ "target/site/jacoco/jacoco.xml"
            else named)) ∧
    loaded.override {} = loaded ∧
    (∀ options : CheckOptions, options.directory = directory → options.IsPlain →
      prepare options (world.loadConfiguration options.directory).outcome =
        if loaded.problems true = [] then .ok loaded
        else .error (.invalid (loaded.problems true))) ∧
    ∀ mark, (carryOut world mark (.validateConfiguration directory)).reply =
      validationReply world.terminal (loaded.problems true) := by
  have hKept := Configuration.isKept_of_loaded hLoaded
  have hSame : loaded.override {} = loaded :=
    Configuration.override_of_settled hKept (Configuration.settled_of_loaded hLoaded)
  refine ⟨?_, hSame, ?_, ?_⟩
  · obtain ⟨document, hDocument, hMakes⟩ := World.exists_holdsDocument hLoaded
    refine ⟨document, loaded.namedReportPath, hDocument,
      Configuration.text_namedReportPath hMakes, ?_⟩
    intro overrides configuration
    have hApplies : overrides.AppliesTo loaded configuration :=
      Configuration.appliesTo_override hKept overrides
    exact ⟨hApplies, hApplies.reportPath⟩
  · intro options hDirectory hPlain
    rw [hDirectory, hLoaded]
    exact prepare_of_isPlain hPlain hSame
  · intro mark
    simp only [carryOut, runOnConfiguration, hLoaded]

/-- In a merge request whose branch is not named, a bare `check` has the one
problem of the loaded configuration; a module on the command line moves the
report. -/
theorem options_on_loaded_of_mergeRequest :
    ∃ loaded,
      (worldOfMergeRequest.loadConfiguration (bareCheck worldOfMergeRequest).directory).outcome =
        .ok loaded ∧
      readRequest worldOfMergeRequest ["check"] = .ok (.check (bareCheck worldOfMergeRequest)) ∧
      prepare (bareCheck worldOfMergeRequest) (.ok loaded) = .error (.invalid [.noHeadRef]) ∧
      (run worldOfMergeRequest "" ["config", "validate"]).reply =
        validationReply worldOfMergeRequest.terminal [.noHeadRef] ∧
      (loaded.override { modulePath := some "lib" }).paths.reportPath =
        "lib/target/site/jacoco/jacoco.xml" := by
  obtain ⟨loaded, hLoaded, hChecks⟩ := exists_of_toOption_map
    (by decide +kernel :
      ((worldOfMergeRequest.loadConfiguration (bareCheck worldOfMergeRequest).directory).outcome.map
        fun loaded =>
          (loaded.problems true,
            (loaded.override { modulePath := some "lib" }).paths.reportPath)).toOption =
        some ([.noHeadRef], "lib/target/site/jacoco/jacoco.xml"))
  obtain ⟨hProblems, hReport⟩ := Prod.ext_iff.mp hChecks
  dsimp only at hProblems
  obtain ⟨-, -, hPrepare, hValidate⟩ := options_on_loaded hLoaded
  rw [hProblems] at hPrepare hValidate
  have hStops := hPrepare (bareCheck worldOfMergeRequest) rfl
    (isPlain_bareCheck worldOfMergeRequest)
  rw [hLoaded, if_neg (List.cons_ne_nil _ _)] at hStops
  have hReply : (run worldOfMergeRequest "" ["config", "validate"]).reply =
      validationReply worldOfMergeRequest.terminal [.noHeadRef] := by
    rw [run, readRequest_validate]
    exact hValidate ""
  exact ⟨loaded, hLoaded, readRequest_check _, hStops, hReply, hReport⟩

end PatchCoverage.CommandLine
