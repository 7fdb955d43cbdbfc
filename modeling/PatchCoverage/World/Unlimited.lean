import PatchCoverage.World.Limits

namespace PatchCoverage

/-!
# A system without limits

Where nothing is said about the system, every text can be printed and written,
and every document can be read.
-/

/-- There are no limits. -/
instance Limits.unlimited : Limits where
  canPrint _ := true
  canWrite _ := true
  isTooDeep _ := false
  canPrint_newline := rfl

namespace Limits

@[simp]
theorem canPrint_unlimited (c : Char) : canPrint c = true := rfl

@[simp]
theorem prints_unlimited (text : String) : prints text = true :=
  List.all_eq_true.mpr fun _ _ => rfl

@[simp]
theorem writes_unlimited (text : String) : writes text = true :=
  List.all_eq_true.mpr fun _ _ => rfl

end Limits

end PatchCoverage
