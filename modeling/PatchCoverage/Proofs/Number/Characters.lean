import PatchCoverage.Number.Decimal
import PatchCoverage.Publish.Markdown

namespace PatchCoverage

/-!
# What numbers are written with

The texts of numbers are made of digits, signs, points, the letters of exponents and of
the numbers that are not finite, and the sign of percentages.
-/

/-- A character that numbers are written with. -/
def isNumeral (c : Char) : Bool :=
  c.isDigit || ['.', '+', '-', '%', 'a', 'e', 'f', 'i', 'n'].contains c

/-- A text of such characters. -/
def IsNumeral (text : List Char) : Prop :=
  ∀ c ∈ text, isNumeral c = true

instance : DecidablePred IsNumeral :=
  fun text => List.decidableBAll (fun c => isNumeral c = true) text

namespace IsNumeral

variable {first second text part : List Char}

theorem append (hFirst : IsNumeral first) (hSecond : IsNumeral second) :
    IsNumeral (first ++ second) :=
  List.forall_mem_append.mpr ⟨hFirst, hSecond⟩

theorem cons {c : Char} (hFirst : isNumeral c = true) (h : IsNumeral text) :
    IsNumeral (c :: text) :=
  List.forall_mem_cons.mpr ⟨hFirst, h⟩

theorem of_subset (h : IsNumeral text) (hPart : part ⊆ text) : IsNumeral part :=
  fun c hMem => h c (hPart hMem)

theorem not_mem (h : IsNumeral text) {c : Char} (hOther : isNumeral c = false) : c ∉ text :=
  fun hMem => Bool.false_ne_true (hOther.symm.trans (h c hMem))

theorem replicate {c : Char} (h : isNumeral c = true) (count : Nat) :
    IsNumeral (List.replicate count c) := by
  intro other hOther
  rwa [List.eq_of_mem_replicate hOther]

end IsNumeral

theorem isNumeral_decimalDigits (value : Nat) : IsNumeral (decimalDigits value) := by
  intro c hMem
  have hDigit : c.isDigit = true := Nat.isDigit_of_mem_toDigits (by decide) (by decide) hMem
  rw [isNumeral, hDigit, Bool.true_or]

theorem isNumeral_integerText (value : Int) : IsNumeral (integerText value).toList := by
  rw [integerText, String.toList_ofList]
  split
  · exact (isNumeral_decimalDigits _).cons (by decide)
  · exact isNumeral_decimalDigits _

namespace Binary64

theorem isNumeral_signed (negative : Bool) {magnitude : List Char} (h : IsNumeral magnitude) :
    IsNumeral (signed negative magnitude).toList := by
  rw [signed, String.toList_ofList]
  split
  · exact h.cons (by decide)
  · exact h

theorem isNumeral_hundredthsText (count : Nat) : IsNumeral (hundredthsText count) := by
  have hPlaces : ∀ places < 100, IsNumeral
      ['.', Char.ofNat ('0'.toNat + places / 10), Char.ofNat ('0'.toNat + places % 10)] := by
    decide +kernel
  exact (isNumeral_decimalDigits _).append (hPlaces _ (Nat.mod_lt _ (by decide)))

theorem isNumeral_pointedDigits {digits : List Char} (h : IsNumeral digits) (whole : Int) :
    IsNumeral (pointedDigits digits whole) := by
  have hZeros (count : Nat) : IsNumeral (List.replicate count '0') :=
    IsNumeral.replicate (by decide) count
  have hBack (back : List Char) (hNumeral : IsNumeral back) :
      IsNumeral ('.' :: if back.isEmpty then ['0'] else back) := by
    refine IsNumeral.cons (by decide) ?_
    split
    · exact (by decide : IsNumeral ['0'])
    · exact hNumeral
  rw [pointedDigits]
  split
  · exact (((hZeros _).append h).cons (by decide)).cons (by decide)
  · exact ((h.of_subset (List.take_subset _ _)).append (hZeros _)).append
      (hBack _ (h.of_subset (List.drop_subset _ _)))

theorem isNumeral_scientificDigits {digits : List Char} (h : IsNumeral digits)
    (layout : ExponentLayout) (exponent : Int) :
    IsNumeral (scientificDigits layout digits exponent) := by
  unfold scientificDigits
  refine ((h.of_subset (List.take_subset _ _)).append ?_).append ?_
  · split
    · simp [IsNumeral]
    · exact (h.of_subset (List.drop_subset _ _)).cons (by decide)
  · have hMagnitude : IsNumeral (List.replicate
        (layout.exponentDigits - (decimalDigits exponent.natAbs).length) '0' ++
          decimalDigits exponent.natAbs) :=
      (IsNumeral.replicate (by decide) _).append (isNumeral_decimalDigits _)
    refine IsNumeral.cons (by decide) (hMagnitude.cons ?_)
    split <;> decide

theorem isNumeral_shortestText (value : Binary64) : IsNumeral value.shortestText.toList := by
  cases value with
  | nan => decide
  | infinity negative => exact isNumeral_signed negative (by decide)
  | finite negative quanta _ _ =>
      rw [shortestText]
      split
      · exact isNumeral_signed negative (by decide)
      · refine isNumeral_signed negative ?_
        have hDigits (mantissa : Nat) :
            IsNumeral ((decimalDigits mantissa).reverse.dropWhile (· == '0')).reverse := by
          refine (isNumeral_decimalDigits mantissa).of_subset fun c hMem => ?_
          exact List.mem_reverse.mp ((List.dropWhile_sublist _).subset (List.mem_reverse.mp hMem))
        unfold shortestMagnitude
        dsimp only
        split
        · exact isNumeral_pointedDigits (hDigits _) _
        · exact isNumeral_scientificDigits (hDigits _) _ _

end Binary64

theorem isNumeral_percentageText (percentage : Binary64) :
    IsNumeral (percentageText percentage).toList := by
  rw [percentageText, String.toList_append]
  refine IsNumeral.append ?_ (by decide)
  cases percentage with
  | nan => decide
  | infinity negative => exact Binary64.isNumeral_signed negative (by decide)
  | finite negative quanta _ _ =>
      exact Binary64.isNumeral_signed negative (Binary64.isNumeral_hundredthsText _)

end PatchCoverage
