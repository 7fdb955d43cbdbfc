namespace PatchCoverage

/-!
# Environment variables

The variables of a run, by name.  A variable that is set to the empty text is
set, but most readers treat it as missing: `Environment.nonempty?` is for
those.
-/

/-- Environment variables with their values. -/
structure Environment where
  /-- Names and values; the first pair of a name counts. -/
  entries : List (String × String)

namespace Environment

/-- The value of a variable that is set. -/
def get? (environment : Environment) (name : String) : Option String :=
  environment.entries.lookup name

/-- The value of a variable that is set to some text. -/
def nonempty? (environment : Environment) (name : String) : Option String :=
  (environment.get? name).filter fun value => !value.isEmpty

/-- Whether a variable is set to the given text. -/
def holds (environment : Environment) (name value : String) : Bool :=
  environment.get? name == some value

end Environment

end PatchCoverage
