namespace PatchCoverage

/-!
# Coverage reports

A report lists packages, a package lists classes, and a class carries counters.
Each counter says of one kind of item (instructions, lines, branches, …) how
many were missed and how many were covered by tests.
-/

/-- Missed and covered items of one kind. -/
structure Counter where
  /-- The kind of item, such as `LINE`. -/
  kind : String
  /-- The number of items that no test reached. -/
  missed : Int
  /-- The number of items that a test reached. -/
  covered : Int
  deriving DecidableEq, Repr

/-- The number of items counted. -/
def Counter.total (counter : Counter) : Int :=
  counter.missed + counter.covered

/-- A class of a report. -/
structure ClassCoverage where
  /-- The name of the class as the report writes it. -/
  name : String
  /-- The bare name of its source file, empty if it has none. -/
  sourceName : String
  /-- The counters of the class. -/
  counters : List Counter
  deriving DecidableEq, Repr

/-- The sums of missed and covered items over the counters of a kind. -/
def ClassCoverage.totals (cls : ClassCoverage) (kind : String) : Int × Int :=
  let counted := cls.counters.filter fun counter => counter.kind == kind
  (counted.foldr (fun counter sum => counter.missed + sum) 0,
    counted.foldr (fun counter sum => counter.covered + sum) 0)

/-- A package of a report. -/
structure PackageCoverage where
  /-- The name of the package, its components joined by slashes or dots. -/
  name : String
  /-- The classes in the order of the report. -/
  classes : List ClassCoverage
  deriving DecidableEq, Repr

/-- A coverage report. -/
structure Report where
  /-- The packages in the order of the report. -/
  packages : List PackageCoverage
  deriving DecidableEq, Repr

namespace Report

/-- Every class with its package, in the order of the report. -/
def classes (report : Report) : List (PackageCoverage × ClassCoverage) :=
  report.packages.flatMap fun package => package.classes.map fun cls => (package, cls)

/-- The number of classes. -/
def classCount (report : Report) : Nat :=
  report.packages.foldr (fun package count => package.classes.length + count) 0

/-- The kinds of counter that a report may hold, in alphabetical order. -/
def counterKinds : List String :=
  ["BRANCH", "CLASS", "COMPLEXITY", "INSTRUCTION", "LINE", "METHOD"]

/-- Where build tools leave the report of a module, in order of preference. -/
def standardLocations : List String :=
  ["target/site/jacoco/jacoco.xml",
    "build/reports/jacoco/test/jacocoTestReport.xml",
    "build/reports/jacoco/test/jacoco.xml",
    "build/jacoco/test/jacocoTestReport.xml",
    "target/jacoco.xml"]

end Report

end PatchCoverage
