import PatchCoverage.Report.Basic
import PatchCoverage.Scoring.Basic
import PatchCoverage.Text.LetterCase

namespace PatchCoverage

/-!
# Joining a report with the changed files

Every class of the report is judged in turn.  Its source file is unrelated to
the change, or has nothing to count, or is scored.  The outcome collects the
judgements in the order of the report; a judgement that needs a quotient out
of range ends the analysis, with the warnings up to there.
-/

/-- What the scoring of a run is based on. -/
structure ScoringRules where
  /-- The directory of the module, in front of every source path. -/
  modulePath : String
  /-- The source directory inside the module. -/
  sourceRoot : String
  /-- The kind of counter that is scored. -/
  counterKind : String
  /-- The least acceptable percentage. -/
  threshold : Binary64

/-- A package name with its components joined by slashes. -/
def packageDirectory (package : String) : String :=
  String.ofList (package.toList.map fun c => if c = '.' then '/' else c)

/-- The path in the repository of a class's source file. -/
def expectedSourcePath (modulePath sourceRoot package sourceName : String) : String :=
  modulePath ++ sourceRoot ++ packageDirectory package ++ "/" ++ sourceName

/-- What a class of the report means for the change. -/
inductive Judgement where
  /-- Its source file did not change. -/
  | unrelated
  /-- Its source file changed, but has nothing to count. -/
  | skipped (path : String)
  /-- Its source file changed and is scored. -/
  | scored (file : ScoredFile)
  deriving DecidableEq, Repr

/-- The percentage of a class, if it has something to count. -/
def ClassCoverage.percentage? (cls : ClassCoverage) (kind : String) :
    Except ArithmeticError (Option Binary64) :=
  let (missed, covered) := cls.totals kind
  if 0 < missed + covered then (coveragePercentage missed covered).map some else .ok none

/-- Judges one class. -/
def ScoringRules.judge (rules : ScoringRules) (changed : List String)
    (package : PackageCoverage) (cls : ClassCoverage) : Except ArithmeticError Judgement :=
  let path := expectedSourcePath rules.modulePath rules.sourceRoot package.name cls.sourceName
  if cls.sourceName.isEmpty || !changed.contains path then
    .ok .unrelated
  else
    let (missed, covered) := cls.totals rules.counterKind
    (cls.percentage? rules.counterKind).map fun
      | none => .skipped path
      | some percentage =>
        .scored ⟨path, cls.sourceName, cls.name, missed, covered, rules.threshold.le percentage⟩

/-- The results of a step that can fail, up to the first failure. -/
def resultsUntilError {α β ε : Type} (step : α → Except ε β) : List α → List β × Option ε
  | [] => ([], none)
  | item :: items =>
    match step item with
    | .error error => ([], some error)
    | .ok result =>
      let (results, error?) := resultsUntilError step items
      (result :: results, error?)

/-- The scored file of a judgement. -/
def Judgement.scored? : Judgement → Option ScoredFile
  | scored file => some file
  | _ => none

/-- The skipped path of a judgement. -/
def Judgement.skipped? : Judgement → Option String
  | skipped path => some path
  | _ => none

/-- An analysis: what it warned of and how it ended. -/
structure Analysis where
  /-- The warnings in order. -/
  warnings : List String
  /-- The result, unless arithmetic failed. -/
  outcome : Except ArithmeticError ChangeCoverage

/-- The warning about a changed file with nothing to count. -/
def skippedWarning (kind path : String) : String :=
  "No " ++ lowerCase kind ++ " coverage found for " ++ path

/-- Scores the changed files that a report knows. -/
def ScoringRules.analyze (rules : ScoringRules) (report : Report) (changed : List String) :
    Analysis :=
  let (judgements, error?) :=
    resultsUntilError (fun (package, cls) => rules.judge changed package cls) report.classes
  let skipped := judgements.filterMap Judgement.skipped?
  { warnings := skipped.map (skippedWarning rules.counterKind)
    outcome :=
      match error? with
      | some error => .error error
      | none =>
        .ok
          { changedFiles := changed
            threshold := rules.threshold
            entries := judgements.filterMap Judgement.scored?
            skipped := skipped } }

end PatchCoverage
