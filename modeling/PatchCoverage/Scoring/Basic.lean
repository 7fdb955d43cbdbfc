import PatchCoverage.Number.Binary64

namespace PatchCoverage

/-!
# Scored files and their verdict

`ScoredFile` is one changed file with the items its class missed and covered.
`ChangeCoverage` is the outcome of a run: the scored files, the files that had
nothing to count, and the threshold.

Every file weighs the same: the average is the mean of the percentages, added
from the left.  A percentage can fail to exist, for counters that sum to zero
and for quotients out of range, and then so does all that is derived from it.
-/

/-- `covered` of `missed + covered` items in per cent. -/
def coveragePercentage (missed covered : Int) : Except ArithmeticError Binary64 :=
  (Binary64.ofQuotient covered (missed + covered)).map (· * Binary64.hundred)

/-- A changed file that was scored, from one class of the report. -/
structure ScoredFile where
  /-- The path of the file in the repository. -/
  path : String
  /-- The bare name of the file. -/
  sourceName : String
  /-- The class that the counters belong to. -/
  className : String
  /-- The number of items missed. -/
  missed : Int
  /-- The number of items covered. -/
  covered : Int
  /-- Whether the percentage reached the threshold. -/
  meetsThreshold : Bool
  deriving DecidableEq, Repr

/-- The percentage of a scored file. -/
def ScoredFile.percentage (file : ScoredFile) : Except ArithmeticError Binary64 :=
  coveragePercentage file.missed file.covered

/-- The outcome of a run. -/
structure ChangeCoverage where
  /-- The changed files as they were given. -/
  changedFiles : List String
  /-- The least acceptable percentage. -/
  threshold : Binary64
  /-- The scored files, in the order of the report. -/
  entries : List ScoredFile
  /-- Changed files of the report with nothing to count. -/
  skipped : List String

namespace ChangeCoverage

/-- The number of scored files. -/
def fileCount (result : ChangeCoverage) : Nat :=
  result.entries.length

/-- The percentages of the scored files, if all exist. -/
def percentages (result : ChangeCoverage) : Except ArithmeticError (List Binary64) :=
  result.entries.mapM ScoredFile.percentage

/-- The sum of the percentages, added from the left. -/
def total (result : ChangeCoverage) : Except ArithmeticError Binary64 :=
  result.percentages.map fun percentages => percentages.foldl (· + ·) Binary64.zero

/-- The mean of the percentages; there is none without scored files. -/
def average (result : ChangeCoverage) : Except ArithmeticError (Option Binary64) :=
  if result.entries.isEmpty then
    .ok none
  else
    result.total.map fun total => some (total / Binary64.ofNat result.fileCount)

/-- Whether an average reaches a threshold; without an average nothing falls
short. -/
def averageMeets (threshold : Binary64) : Option Binary64 → Bool
  | none => true
  | some average => threshold.le average

/-- Whether the average reaches the threshold. -/
def meetsThreshold (result : ChangeCoverage) : Except ArithmeticError Bool :=
  result.average.map (averageMeets result.threshold)

end ChangeCoverage

end PatchCoverage
