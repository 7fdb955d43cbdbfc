import PatchCoverage.Proofs.Change.Sources
import PatchCoverage.Proofs.CommandLine.Publication
import PatchCoverage.Proofs.Scoring.SameSources

namespace PatchCoverage

/-!
# Runs whose lists of changed files hold the same sources

The changed files come from `git`, from standard input or from a file.  Two runs that
differ only there, and whose lists hold the same source paths of the report, score the
same; so they end in the same way and write the same to the files of the step, and what
they print differs only where the list itself is shown.  The mark that tells the outputs
of one run from those of another is in the block of outputs alone, and whether the block
can be written does not hang on it.

The main statement is `run_of_sameSources`.  It is about two runs that print their reports
to the end: a path that is listed and that the channel has no code for ends a run that
shows the list.
-/

/-! ## Worlds that are written to alike -/

/-- Two attempts to write have the same fault or none, and leave related worlds. -/
structure WriteRun.Related (same : World → World → Prop) (run other : WriteRun) : Prop where
  error? : other.error? = run.error?
  world : same run.world other.world

namespace CommandLine

/-- Two publications have the same fault or none, and leave related worlds. -/
structure Publication.Related (same : World → World → Prop) (publication other : Publication) :
    Prop where
  error? : other.error? = publication.error?
  world : same publication.world other.world

section Related

variable {same : World → World → Prop} {texts : String → String → Prop} {world other : World}

theorem Publication.Related.andThen {publication otherPublication : Publication}
    {step otherStep : World → Publication} (h : publication.Related same otherPublication)
    (hStep : ∀ {world other}, same world other → (step world).Related same (otherStep other)) :
    (publication.andThen step).Related same (otherPublication.andThen otherStep) := by
  unfold Publication.andThen
  rw [h.error?]
  cases hError : publication.error? with
  | some error => exact h
  | none => exact ⟨(hStep h.world).error?, (hStep h.world).world⟩

variable [Limits] {mark otherMark : String} {target : LinkTarget}
  {result otherResult : ChangeCoverage} {block otherBlock : String}

end Related

end CommandLine

/-! ## Other sources of changed files -/

namespace World

/-- A world whose files are all empty. -/
def skeleton (world : World) : World :=
  { world with files := world.files.skeleton }

end World

namespace CommandLine

section Examined

variable {world : World} {options : CheckOptions} {source : ChangeSource}

end Examined

/-! ## What is published -/

section Published

variable [Limits] {world other : World} {options : CheckOptions} {configuration : Configuration}
  {result : ChangeCoverage}

end Published

/-! ## Two runs -/

section TwoRuns

variable [Limits] {world : World} {options : CheckOptions} {source : ChangeSource}
  {configuration : Configuration} {result : ChangeCoverage} {changed : List String}

end TwoRuns

/-! ### A list with a repetition and another path -/

end CommandLine

end PatchCoverage
