import PatchCoverage.World.Environment

namespace PatchCoverage

/-!
# The service that a run belongs to

A run can be a job of one of two known services, each of which names the
branches of a pull request in variables of its own.  One service is selected,
and only its variables are read.  Outside of both, the variables of the first
may still have been set by hand.
-/

/-- What is known of the job and the pull request of a run. -/
structure JobContext where
  /-- Whether the run is a job of a service. -/
  isJob : Bool
  /-- Whether the job belongs to a pull request. -/
  isPullRequest : Bool
  /-- The branch that the change goes to. -/
  baseRef : Option String
  /-- The branch of the change. -/
  headRef : Option String
  /-- The repository as `owner/name`. -/
  repository : Option String
  deriving DecidableEq, Repr

/-- The service that a run belongs to. -/
inductive Provider where
  /-- GitHub Actions. -/
  | github
  /-- GitLab CI. -/
  | gitlab
  /-- Neither. -/
  | other
  deriving DecidableEq, Repr

/-- The service that the environment selects. -/
def Environment.provider (environment : Environment) : Provider :=
  if environment.holds "GITHUB_ACTIONS" "true" then .github
  else if environment.holds "GITLAB_CI" "true" then .gitlab
  else .other

/-- What the variables of a service say. -/
def Provider.context (environment : Environment) : Provider → JobContext
  | github =>
    { isJob := true
      isPullRequest := (environment.nonempty? "GITHUB_BASE_REF").isSome
      baseRef := environment.nonempty? "GITHUB_BASE_REF"
      headRef := environment.nonempty? "GITHUB_HEAD_REF"
      repository := environment.nonempty? "GITHUB_REPOSITORY" }
  | gitlab =>
    let isPullRequest := (environment.nonempty? "CI_MERGE_REQUEST_ID").isSome
    let ofRequest (name : String) := if isPullRequest then environment.get? name else none
    { isJob := true
      isPullRequest := isPullRequest
      baseRef := ofRequest "CI_MERGE_REQUEST_TARGET_BRANCH_NAME"
      headRef := ofRequest "CI_MERGE_REQUEST_SOURCE_BRANCH_NAME"
      repository := environment.nonempty? "CI_PROJECT_PATH" }
  | other =>
    { isJob := environment.holds "CI" "true"
      isPullRequest := false
      baseRef := environment.nonempty? "GITHUB_BASE_REF"
      headRef := environment.nonempty? "GITHUB_HEAD_REF"
      repository := environment.nonempty? "GITHUB_REPOSITORY" }

/-- What is known of the job of a run. -/
def Environment.jobContext (environment : Environment) : JobContext :=
  environment.provider.context environment

end PatchCoverage
