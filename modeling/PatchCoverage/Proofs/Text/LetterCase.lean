import Mathlib.Data.List.Basic
import PatchCoverage.Text.LetterCase
import PatchCoverage.Proofs.Text.Utf8

namespace PatchCoverage

/-!
# Text in upper case stays as it is

A letter can have a capital form of several letters, so that a text in upper case is not
a text of capitals one by one.  Every letter of a capital form is its own capital form,
though, and so putting a text into upper case twice is putting it there once
(`upperCase_idem`).

The tables are compared once, as stretches of code points: no code point that a table
leads to stands in a stretch that a table leads from (`areSettled_capitals`).  A letter in
no such stretch is its own capital form.
-/

/-- Every `step`-th code point from `first` to `last`. -/
structure Stretch where
  /-- The first code point. -/
  first : Nat
  /-- The last code point, which need not be on a step. -/
  last : Nat
  /-- The distance from one code point to the next. -/
  step : Nat

namespace Stretch

/-- The stretch of one code point. -/
def single (code : Nat) : Stretch :=
  ⟨code, code, 1⟩

/-- The code points of a stretch. -/
def Holds (stretch : Stretch) (code : Nat) : Prop :=
  stretch.first ≤ code ∧ code ≤ stretch.last ∧ (code - stretch.first) % stretch.step = 0

/-- Whether all code points of a stretch are even or all are odd, as far as its bounds and
its step tell. -/
def keepsParity (stretch : Stretch) : Bool :=
  stretch.step == 2 || stretch.first == stretch.last

/-- Whether two stretches have no code point in common, as far as their bounds and the
parities of their code points tell. -/
def isApart (one other : Stretch) : Bool :=
  Nat.blt one.last other.first || Nat.blt other.last one.first ||
    (one.keepsParity && other.keepsParity && one.first % 2 != other.first % 2)

/-- Whether all code points between the bounds are code points of characters. -/
def isOfCharacters (stretch : Stretch) : Bool :=
  Nat.blt stretch.last 0xd800 || (Nat.blt 0xdfff stretch.first && Nat.blt stretch.last 0x110000)

variable {one other stretch : Stretch} {code : Nat}

theorem mod_two_of_holds (hParity : stretch.keepsParity = true) (hHolds : stretch.Holds code) :
    code % 2 = stretch.first % 2 := by
  obtain ⟨hFirst, hLast, hStep⟩ := hHolds
  simp only [keepsParity, Bool.or_eq_true, beq_iff_eq] at hParity
  obtain hTwo | hSame := hParity
  · rw [hTwo] at hStep
    omega
  · omega

theorem not_holds_of_isApart (hApart : one.isApart other = true) (hHolds : one.Holds code) :
    ¬ other.Holds code := by
  intro hOther
  simp only [isApart, Bool.or_eq_true, Bool.and_eq_true, bne_iff_ne, ne_eq,
    Nat.blt_eq] at hApart
  obtain (hBefore | hAfter) | ⟨⟨hOne, hTwo⟩, hParities⟩ := hApart
  · have := hHolds.2.1
    have := hOther.1
    omega
  · have := hHolds.1
    have := hOther.2.1
    omega
  · exact hParities ((mod_two_of_holds hOne hHolds).symm.trans (mod_two_of_holds hTwo hOther))

theorem isValidChar_of_holds (hCharacters : stretch.isOfCharacters = true)
    (hHolds : stretch.Holds code) : code.isValidChar := by
  obtain ⟨hFirst, hLast, -⟩ := hHolds
  simp only [isOfCharacters, Bool.or_eq_true, Bool.and_eq_true, Nat.blt_eq] at hCharacters
  unfold Nat.isValidChar
  omega

end Stretch

variable (groups : List (Nat × List Char)) (table : CaseRuns)

/-- The stretches that letters are mapped from: the small letters of ASCII, and those of
the tables. -/
def mappedStretches : List Stretch :=
  ⟨0x61, 0x7a, 1⟩ :: (groups.map fun group => .single group.1) ++
    table.runs.map fun (first, last, step, _) => ⟨first, last, step⟩

/-- The stretches that the tables map letters to. -/
def formStretches : List Stretch :=
  (groups.flatMap fun group => group.2.map fun letter => .single letter.toNat) ++
    table.runs.map fun (first, last, step, distance) =>
      ⟨(first + distance).toNat, (last + distance).toNat, step⟩

/-- Whether no letter that the tables map to is mapped again. -/
def areSettled : Bool :=
  (table.runs.all fun (first, _, _, distance) => decide (0 ≤ first + distance)) &&
    (formStretches groups table).all fun form =>
      form.isOfCharacters && (mappedStretches groups table).all form.isApart

/-- A code point in no stretch that letters are mapped from. -/
def IsUnmapped (code : Nat) : Prop :=
  ∀ stretch ∈ mappedStretches groups table, ¬ stretch.Holds code

variable {groups table}

theorem mem_mappedStretches_ascii : ⟨0x61, 0x7a, 1⟩ ∈ mappedStretches groups table :=
  List.mem_cons_self

theorem areSettled_iff : areSettled groups table = true ↔
    (∀ run ∈ table.runs, 0 ≤ run.1 + run.2.2.2) ∧
      ∀ form ∈ formStretches groups table, form.isOfCharacters = true ∧
        ∀ stretch ∈ mappedStretches groups table, form.isApart stretch = true := by
  simp only [areSettled, Bool.and_eq_true, List.all_eq_true, decide_eq_true_eq]

theorem lookup_eq_none_of_isUnmapped {code : Nat} (hUnmapped : IsUnmapped groups table code) :
    groups.lookup code = none := by
  refine List.lookup_eq_none_iff.mpr fun group hMem => bne_iff_ne.mpr ?_
  rintro rfl
  refine hUnmapped (.single group.1) ?_ ⟨Nat.le_refl _, Nat.le_refl _, Nat.mod_one _⟩
  simp only [mappedStretches, List.cons_append, List.mem_cons, List.mem_append, List.mem_map]
  exact .inr (.inl ⟨group, hMem, rfl⟩)

theorem image?_eq_none_of_isUnmapped {code : Nat} (hUnmapped : IsUnmapped groups table code) :
    table.image? code = none := by
  refine Option.map_eq_none_iff.mpr (List.find?_eq_none.mpr ?_)
  rintro ⟨first, last, step, distance⟩ hMem hFound
  simp only [Bool.and_eq_true, decide_eq_true_eq, beq_iff_eq] at hFound
  refine hUnmapped ⟨first, last, step⟩ ?_ ⟨hFound.1.1, hFound.1.2, hFound.2⟩
  simp only [mappedStretches, List.cons_append, List.mem_cons, List.mem_append, List.mem_map]
  exact .inr (.inr ⟨_, hMem, rfl⟩)

theorem mapLetter_of_isUnmapped {c : Char} (hUnmapped : IsUnmapped groups table c.toNat) :
    mapLetter groups table c = [c] := by
  simp only [mapLetter, lookup_eq_none_of_isUnmapped hUnmapped,
    image?_eq_none_of_isUnmapped hUnmapped]

theorem isUnmapped_of_form (hSettled : areSettled groups table = true) {form : Stretch}
    (hForm : form ∈ formStretches groups table) {code : Nat} (hHolds : form.Holds code) :
    IsUnmapped groups table code := by
  intro stretch hMem
  obtain ⟨-, hApart⟩ := (areSettled_iff.mp hSettled).2 form hForm
  exact Stretch.not_holds_of_isApart (hApart stretch hMem) hHolds

theorem isUnmapped_of_mem_group (hSettled : areSettled groups table = true) {code : Nat}
    {letters : List Char} (hFound : groups.lookup code = some letters) {d : Char}
    (hMem : d ∈ letters) :
    IsUnmapped groups table d.toNat := by
  obtain ⟨before, after, hGroups, -⟩ := List.lookup_eq_some_iff.mp hFound
  have hGroup : (code, letters) ∈ groups := by
    rw [hGroups]
    exact List.mem_append_right _ List.mem_cons_self
  have hForm : .single d.toNat ∈ formStretches groups table :=
    List.mem_append_left _
      (List.mem_flatMap.mpr ⟨_, hGroup, List.mem_map.mpr ⟨d, hMem, rfl⟩⟩)
  exact isUnmapped_of_form hSettled hForm ⟨Nat.le_refl _, Nat.le_refl _, Nat.mod_one _⟩

theorem isUnmapped_of_image (hSettled : areSettled groups table = true) {code image : Nat}
    (hImage : table.image? code = some image) :
    IsUnmapped groups table (Char.ofNat image).toNat := by
  obtain ⟨⟨first, last, step, distance⟩, hRun, rfl⟩ := Option.map_eq_some_iff.mp hImage
  have hMoved := List.find?_some hRun
  simp only [Bool.and_eq_true, decide_eq_true_eq, beq_iff_eq] at hMoved
  obtain ⟨⟨hFirst, hLast⟩, hStep⟩ := hMoved
  have hListed := List.mem_of_find?_eq_some hRun
  have hForm : (⟨(first + distance).toNat, (last + distance).toNat, step⟩ : Stretch) ∈
      formStretches groups table :=
    List.mem_append_right _ (List.mem_map.mpr ⟨_, hListed, rfl⟩)
  have hPositive : 0 ≤ first + distance := (areSettled_iff.mp hSettled).1 _ hListed
  obtain ⟨hCharacters, -⟩ := (areSettled_iff.mp hSettled).2 _ hForm
  have hHolds : Stretch.Holds ⟨(first + distance).toNat, (last + distance).toNat, step⟩
      (code + distance).toNat := by
    -- Nothing is cut off below zero, so a step of the run is a step of its image.
    have hDifference : (code + distance).toNat - (first + distance).toNat = code - first := by
      omega
    exact ⟨Int.toNat_le_toNat (by omega), Int.toNat_le_toNat (by omega),
      (congrArg (· % step) hDifference).trans hStep⟩
  have hImageCode : (Char.ofNat (code + distance).toNat).toNat = (code + distance).toNat :=
    val_ofNat (Stretch.isValidChar_of_holds hCharacters hHolds)
  rw [hImageCode]
  exact isUnmapped_of_form hSettled hForm hHolds

/-- A letter that settled tables map to is mapped no further. -/
theorem isUnmapped_of_mem_mapLetter (hSettled : areSettled groups table = true) {c d : Char}
    (hMem : d ∈ mapLetter groups table c) :
    IsUnmapped groups table d.toNat ∨ (d = c ∧ mapLetter groups table c = [c]) := by
  cases hFound : groups.lookup c.toNat with
  | some letters =>
    simp only [mapLetter, hFound] at hMem
    exact .inl (isUnmapped_of_mem_group hSettled hFound hMem)
  | none =>
    cases hImage : table.image? c.toNat with
    | some image =>
      simp only [mapLetter, hFound, hImage, List.mem_singleton] at hMem
      rw [hMem]
      exact .inl (isUnmapped_of_image hSettled hImage)
    | none =>
      simp only [mapLetter, hFound, hImage, List.mem_singleton] at hMem ⊢
      exact .inr ⟨hMem, trivial⟩

/-! ## Capital forms -/

theorem areSettled_capitals : areSettled capitalGroups capitalRuns = true := by
  unfold capitalGroups capitalRuns letterGroups CaseRuns.ofTable hexRows
  simp only [String.toList_append]
  -- The texts become lists of characters before the tables are read from them.
  repeat rw [String.toList_ofList]
  decide +kernel

theorem toUpper_eq_self {c : Char} (h : ¬ (0x61 ≤ c.toNat ∧ c.toNat ≤ 0x7a)) :
    c.toUpper = c :=
  dif_neg h

theorem capitals_of_isUnmapped {c : Char}
    (hUnmapped : IsUnmapped capitalGroups capitalRuns c.toNat) :
    capitals c = [c] := by
  unfold capitals
  split
  · refine congrArg (fun letter => [letter]) (toUpper_eq_self fun hSmall => ?_)
    exact hUnmapped _ mem_mappedStretches_ascii ⟨hSmall.1, hSmall.2, Nat.mod_one _⟩
  · exact mapLetter_of_isUnmapped hUnmapped

theorem toUpper_toUpper_of_ascii {c : Char} (hAscii : c.val < 128) :
    c.toUpper.val < 128 ∧ c.toUpper.toUpper = c.toUpper := by
  have hForAll : ∀ code < 128, (Char.ofNat code).toUpper.val < 128 ∧
      (Char.ofNat code).toUpper.toUpper = (Char.ofNat code).toUpper := by
    decide
  have := hForAll c.toNat (UInt32.lt_iff_toNat_lt.mp hAscii)
  rwa [Char.ofNat_toNat] at this

/-- Every letter of a capital form is its own capital form. -/
theorem capitals_of_mem_capitals {c d : Char} (hMem : d ∈ capitals c) : capitals d = [d] := by
  by_cases hAscii : c.val < 128
  · rw [capitals, if_pos hAscii, List.mem_singleton] at hMem
    obtain ⟨hUpper, hSame⟩ := toUpper_toUpper_of_ascii hAscii
    rw [hMem, capitals, if_pos hUpper, hSame]
  · rw [capitals, if_neg hAscii] at hMem
    obtain hUnmapped | ⟨rfl, hKept⟩ := isUnmapped_of_mem_mapLetter areSettled_capitals hMem
    · exact capitals_of_isUnmapped hUnmapped
    · rw [capitals, if_neg hAscii, hKept]

/-- A text in upper case stays as it is when it is put into upper case. -/
theorem upperCase_idem (text : String) : upperCase (upperCase text) = upperCase text := by
  unfold upperCase
  rw [String.toList_ofList, List.flatMap_assoc]
  refine congrArg String.ofList (List.flatMap_congr fun c _ => ?_)
  calc (capitals c).flatMap capitals
      = (capitals c).flatMap fun d => [d] :=
        List.flatMap_congr fun d hMem => capitals_of_mem_capitals hMem
    _ = capitals c := List.flatMap_singleton' _

end PatchCoverage
