import PatchCoverage.CommandLine.Program

namespace PatchCoverage.CommandLine

/-!
# The stages of `check`

A run stops with its first stage that fails, `examine_outcome`.  The first stage is the
configuration: it has to be loaded, the two options on failing may not contradict each
other, and nothing may be wrong with it once the options are on top.
-/

/-- The configuration of a run: the loaded one with the options on top. -/
def CheckOptions.configurationOn (options : CheckOptions) (loaded : Configuration) :
    Configuration :=
  loaded.override
    { options.overrides with
      failUnderThreshold :=
        if options.warnOnly then some false else if options.failUnder then some true else none }

/-- Whether a low average fails the run: never with `--warn-only`, always with
`--fail-under`, and as it is configured with neither. -/
def CheckOptions.failsWhenLow (options : CheckOptions) (loaded : Configuration) : Bool :=
  if options.warnOnly then false
  else if options.failUnder then true
  else loaded.coverage.failUnderThreshold

/-! ## Stages -/

@[simp]
theorem mapError_ok {α ε ε' : Type} (f : ε → ε') (value : α) :
    (Except.ok value).mapError f = .ok value :=
  rfl

@[simp]
theorem mapError_error {α ε ε' : Type} (f : ε → ε') (error : ε) :
    (Except.error error : Except ε α).mapError f = .error (f error) :=
  rfl

/-- A command line that asks for a check runs one. -/
theorem run_of_check [Limits] {world : World} {arguments : List String} {options : CheckOptions}
    (hRequest : readRequest world arguments = .ok (.check options)) (mark : String) :
    run world mark arguments = runCheck world mark options := by
  simp only [run, hRequest, carryOut]

theorem Refusal.printed_reply (refusal : Refusal) : refusal.reply.printed = "" := by
  unfold Refusal.reply
  split <;> rfl

/-- A run stops with its first stage that fails. -/
theorem examine_outcome [Limits] (world : World) (options : CheckOptions) :
    (examine world options).outcome = (do
      let configuration ← prepare options (world.loadConfiguration options.directory).outcome
      let changed ← (listChanges world options configuration).2
      (examineChanges world configuration changed).2.map fun result =>
        (configuration, result)) := by
  unfold examine
  dsimp only
  cases prepare options (world.loadConfiguration options.directory).outcome with
  | error stop => rfl
  | ok configuration =>
      dsimp only [bind, Except.bind]
      rcases listChanges world options configuration with ⟨start?, stop | changed⟩
      · rfl
      · rfl

/-! ## The configuration -/

theorem failureOverride_eq {failUnder warnOnly : Bool}
    (h : (failUnder && warnOnly) = false) :
    failureOverride failUnder warnOnly =
      .ok (if warnOnly then some false else if failUnder then some true else none) := by
  unfold failureOverride
  rw [h]
  cases failUnder <;> cases warnOnly <;> rfl

theorem prepare_of_error {options : CheckOptions} {error : LoadError} :
    prepare options (.error error) = .error (.load error) :=
  rfl

theorem prepare_of_contradiction {options : CheckOptions} {loaded : Configuration}
    (h : (options.failUnder && options.warnOnly) = true) :
    prepare options (.ok loaded) = .error .contradiction := by
  simp [prepare, failureOverride, h, bind, Except.bind]

/-- Options that do not contradict each other leave the check of the
configuration. -/
theorem prepare_of_consistent {options : CheckOptions} {loaded : Configuration}
    (h : (options.failUnder && options.warnOnly) = false) :
    prepare options (.ok loaded) =
      if (options.configurationOn loaded).problems options.changes?.isNone = [] then
        .ok (options.configurationOn loaded)
      else
        .error (.invalid
          ((options.configurationOn loaded).problems options.changes?.isNone)) := by
  simp only [prepare, failureOverride_eq h, mapError_ok, bind, Except.bind]
  rw [← CheckOptions.configurationOn]
  cases (options.configurationOn loaded).problems options.changes?.isNone <;> rfl

/-- Whether the configuration of a run fails a low average. -/
theorem CheckOptions.failUnderThreshold_configurationOn (options : CheckOptions)
    (loaded : Configuration) :
    (options.configurationOn loaded).coverage.failUnderThreshold =
      options.failsWhenLow loaded := by
  unfold configurationOn failsWhenLow Configuration.override
  cases options.warnOnly <;> cases options.failUnder <;> rfl

end PatchCoverage.CommandLine
