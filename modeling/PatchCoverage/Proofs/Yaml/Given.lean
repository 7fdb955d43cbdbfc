import PatchCoverage.Yaml.Value

namespace PatchCoverage

/-!
# Values that are given are written with something

A value that counts as given is never the empty text where a text is asked for
(`Yaml.Value.text_ne_empty_of_isGiven`).  An empty setting is therefore one that no value of
the file was read for.
-/

theorem integerText_ne_empty (value : Int) : integerText value ≠ "" := by
  unfold integerText
  split <;> simp [decimalDigits, Nat.toDigits_ne_nil]

namespace Binary64

theorem signed_ne_empty (negative : Bool) {magnitude : List Char} (h : magnitude ≠ []) :
    signed negative magnitude ≠ "" := by
  unfold signed
  split <;> simp [h]

/-- There is a point in a number without an exponent. -/
theorem pointedDigits_ne_nil (digits : List Char) (whole : Int) :
    pointedDigits digits whole ≠ [] := by
  unfold pointedDigits
  split <;> simp

theorem scientificDigits_ne_nil (layout : ExponentLayout) (digits : List Char) (exponent : Int) :
    scientificDigits layout digits exponent ≠ [] := by
  simp [scientificDigits]

theorem shortestText_ne_empty (value : Binary64) : value.shortestText ≠ "" := by
  cases value with
  | nan => decide
  | infinity negative => exact signed_ne_empty negative (by decide)
  | finite negative quanta _ _ =>
      rw [shortestText]
      split
      · exact signed_ne_empty negative (by decide)
      · refine signed_ne_empty negative ?_
        unfold shortestMagnitude
        dsimp only
        split
        · exact pointedDigits_ne_nil _ _
        · exact scientificDigits_ne_nil _ _ _

end Binary64

namespace Yaml

theorem Date.text_ne_empty (date : Date) : date.text ≠ "" := by
  simp [text, String.append_eq_empty_iff]

theorem Timestamp.text_ne_empty (separator : String) (time : Timestamp) :
    time.text separator ≠ "" := by
  simp [text, String.append_eq_empty_iff]

/-- A value that is given is not written as nothing. -/
theorem Value.text_ne_empty_of_isGiven {value : Value} (h : value.isGiven = true) :
    value.text ≠ "" := by
  cases value with
  | null => cases h
  | bool value => cases value <;> decide
  | integer value => exact integerText_ne_empty value
  | number value => exact value.shortestText_ne_empty
  | string value =>
      rintro rfl
      exact absurd h (by decide)
  | octets value => simp [text, shown, quotedOctets]
  | date value => exact value.text_ne_empty
  | timestamp value => exact value.text_ne_empty " "
  | sequence items => simp [text, shown, String.append_eq_empty_iff]
  | mapping entries => simp [text, shown, String.append_eq_empty_iff]
  | members items =>
      cases items with
      | nil => cases h
      | cons item items => simp [text, shown, String.append_eq_empty_iff]
  | pair key value => simp [text, shown, String.append_eq_empty_iff]
  | enclosing isMapping => cases isMapping <;> simp [text, shown]

end Yaml

end PatchCoverage
