import Mathlib.Data.List.Basic
import PatchCoverage.Console.Emoji

namespace PatchCoverage.Console.EmojiCodes

/-!
# Codes in a text

The names between colons are read from left to right, and what a text leaves open is
all that the codes behind it depend on (`namesFrom_append`).  A text is free if none of
these names is that of an emoji.

Replacing codes leaves a text as it is exactly if it is free, `replace_eq_self_iff`.
Otherwise the text loses colons, since no emoji holds one; so it can be told by
counting colons whether a text was free (`isFree_of_count`).
-/

/-- The name in the code that a character ends, if it ends one. -/
def ended (name? : Option (List Char)) (c : Char) : List (List Char) :=
  if c = ':' then name?.toList else []

/-- The names in the codes of a text, behind a code that is open. -/
def namesFrom (name? : Option (List Char)) : List Char → List (List Char)
  | [] => []
  | c :: rest => ended name? c ++ namesFrom (readOn name? c) rest

/-- The names in the codes of a text. -/
def names (text : List Char) : List (List Char) :=
  namesFrom none text

/-- No code in a text names an emoji. -/
def IsFree (codes : EmojiCodes) (text : List Char) : Prop :=
  ∀ name ∈ names text, codes.shown? name = none

/-- A text that has no code and leaves none open. -/
structure IsClosed (text : List Char) : Prop where
  names_eq_nil : names text = []
  closes : text.foldl readOn none = none

instance (text : List Char) : Decidable (IsClosed text) :=
  decidable_of_iff (names text = [] ∧ text.foldl readOn none = none)
    ⟨fun h => ⟨h.1, h.2⟩, fun h => ⟨h.1, h.2⟩⟩

section Names

variable {front text rest : List Char}

theorem namesFrom_append (name? : Option (List Char)) (front rest : List Char) :
    namesFrom name? (front ++ rest) =
      namesFrom name? front ++ namesFrom (front.foldl readOn name?) rest := by
  induction front generalizing name? with
  | nil => rfl
  | cons c front ih =>
      rw [List.cons_append, namesFrom, namesFrom, ih, List.append_assoc, List.foldl_cons]

/-- Without a colon no code ends. -/
theorem namesFrom_eq_nil (name? : Option (List Char)) (h : ':' ∉ text) :
    namesFrom name? text = [] := by
  induction text generalizing name? with
  | nil => rfl
  | cons c text ih =>
      obtain ⟨hColon, hOthers⟩ := not_or.mp (mt List.mem_cons.mpr h)
      rw [namesFrom, ih _ hOthers, ended, if_neg (Ne.symm hColon), List.nil_append]

theorem foldl_readOn_eq_none (h : ':' ∉ text) : text.foldl readOn none = none := by
  induction text with
  | nil => rfl
  | cons c text ih =>
      obtain ⟨hColon, hOthers⟩ := not_or.mp (mt List.mem_cons.mpr h)
      rw [List.foldl_cons, readOn, if_neg (Ne.symm hColon)]
      exact ih hOthers

theorem isClosed_of_not_mem (h : ':' ∉ text) : IsClosed text :=
  ⟨namesFrom_eq_nil none h, foldl_readOn_eq_none h⟩

theorem IsClosed.names_append (h : IsClosed front) (rest : List Char) :
    names (front ++ rest) = names rest := by
  rw [names, namesFrom_append, h.closes, ← names, h.names_eq_nil, List.nil_append, names]

theorem IsClosed.append (hFront : IsClosed front) (hRest : IsClosed rest) :
    IsClosed (front ++ rest) where
  names_eq_nil := (hFront.names_append rest).trans hRest.names_eq_nil
  closes := by rw [List.foldl_append, hFront.closes, hRest.closes]

/-- Between a closed text and a text without colons, codes are what they are. -/
theorem names_enclosed (hFront : IsClosed front) (hRest : ':' ∉ rest) (text : List Char) :
    names (front ++ text ++ rest) = names text := by
  rw [List.append_assoc, hFront.names_append, names, namesFrom_append, namesFrom_eq_nil _ hRest,
    List.append_nil, names]

end Names

section Replaced

variable {codes : EmojiCodes} {name? : Option (List Char)} {text : List Char}

theorem isFree_of_names_eq_nil (h : names text = []) : codes.IsFree text := by
  rw [IsFree, h]
  exact List.forall_mem_nil _

theorem isFree_of_not_mem (h : ':' ∉ text) : codes.IsFree text :=
  isFree_of_names_eq_nil (namesFrom_eq_nil none h)

/-- A character that ends no code of an emoji is passed on, sooner or later. -/
theorem pass_append_openCode {c : Char}
    (h : ∀ name ∈ ended name? c, codes.shown? name = none) :
    codes.pass name? c ++ openCode (readOn name? c) = openCode name? ++ [c] := by
  -- A colon opens a code or ends one; any other character is passed on now or is held back
  -- with the code that is open.
  by_cases hColon : c = ':'
  · subst hColon
    cases name? with
    | none => rfl
    | some name =>
        have hNone : codes.shown? name = none := by simpa [ended] using h
        simp [pass, readOn, openCode, hNone]
  · cases name? with
    | none => simp [pass, readOn, openCode, hColon]
    | some name =>
        cases hBlank : isBlank c with
        | false => simp [pass, readOn, openCode, hColon, hBlank]
        | true => simp [pass, readOn, openCode, hColon, hBlank]

theorem replaceFrom_of_isFree (h : ∀ name ∈ namesFrom name? text, codes.shown? name = none) :
    codes.replaceFrom name? text = openCode name? ++ text := by
  induction text generalizing name? with
  | nil => rw [replaceFrom, List.append_nil]
  | cons c text ih =>
      obtain ⟨hOwn, hOthers⟩ := List.forall_mem_append.mp h
      rw [replaceFrom, ih hOthers, ← List.append_assoc, pass_append_openCode hOwn,
        List.append_assoc, List.singleton_append]

/-- No emoji holds a colon, with its variant or without. -/
theorem not_mem_of_shown? {name emoji : List Char} (h : codes.shown? name = some emoji) :
    ':' ∉ emoji := by
  have hVariants : ∀ entry ∈ variants, ':' ∉ [entry.2] := by decide
  have hVariant : ':' ∉ (splitVariant name).2 := by
    unfold splitVariant
    split
    · next hFound => exact hVariants _ (List.mem_of_find?_eq_some hFound)
    · exact List.not_mem_nil
  obtain ⟨found, hFound, rfl⟩ := Option.map_eq_some_iff.mp h
  exact fun hMem => (List.mem_append.mp hMem).elim (codes.not_colon _ _ hFound) hVariant

/-- The number of codes in a text that name an emoji. -/
def countKnown (codes : EmojiCodes) (names : List (List Char)) : Nat :=
  names.countP fun name => (codes.shown? name).isSome

/-- A code that is replaced takes two colons away. -/
theorem count_pass {c : Char} (hName : ∀ name, name? = some name → ':' ∉ name) :
    (codes.pass name? c).count ':' + (openCode (readOn name? c)).count ':' +
        2 * codes.countKnown (ended name? c) =
      (openCode name? ++ [c]).count ':' := by
  cases hKnown : codes.countKnown (ended name? c) with
  | zero =>
      have hNone : ∀ name ∈ ended name? c, codes.shown? name = none := by
        intro name hMem
        simpa using List.countP_eq_zero.mp hKnown name hMem
      rw [← pass_append_openCode hNone, List.count_append, Nat.mul_zero, Nat.add_zero]
  | succ known =>
      -- A character ends no more than one code, and only a colon ends one.
      cases name? with
      | none =>
          have hNone : codes.countKnown (ended none c) = 0 := by
            unfold ended
            split <;> rfl
          rw [hNone] at hKnown
          cases hKnown
      | some name =>
          obtain rfl : c = ':' := by
            by_contra hColon
            simp [countKnown, ended, hColon] at hKnown
          have hOwn : name.count ':' = 0 := List.count_eq_zero.mpr (hName name rfl)
          cases hShown : codes.shown? name with
          | none => simp [countKnown, ended, hShown] at hKnown
          | some emoji =>
              have hEmoji : emoji.count ':' = 0 :=
                List.count_eq_zero.mpr (not_mem_of_shown? hShown)
              obtain rfl : known = 0 := by simpa [countKnown, ended, hShown, eq_comm] using hKnown
              simp [pass, readOn, openCode, hShown, hEmoji, hOwn]

theorem not_mem_of_readOn (hName : ∀ name, name? = some name → ':' ∉ name) (c : Char) :
    ∀ name, readOn name? c = some name → ':' ∉ name := by
  intro name hRead
  unfold readOn at hRead
  split at hRead
  · split at hRead
    · obtain rfl := Option.some.inj hRead
      exact List.not_mem_nil
    · cases hRead
  · next front =>
    split at hRead
    · cases hRead
    · next hInside =>
      obtain rfl := Option.some.inj hRead
      have hColon : c ≠ ':' := fun hSame => hInside (by simp [hSame])
      simpa [eq_comm, hColon] using hName front rfl

theorem count_replaceFrom (hName : ∀ name, name? = some name → ':' ∉ name) :
    (codes.replaceFrom name? text).count ':' + 2 * codes.countKnown (namesFrom name? text) =
      (openCode name? ++ text).count ':' := by
  induction text generalizing name? with
  | nil => simp [replaceFrom, namesFrom, countKnown]
  | cons c text ih =>
      have hFirst : (codes.pass name? c).count ':' + (openCode (readOn name? c)).count ':' +
          2 * codes.countKnown (ended name? c) = (openCode name? ++ [c]).count ':' :=
        count_pass hName
      have hRest := ih (not_mem_of_readOn hName c)
      rw [countKnown, namesFrom, List.countP_append, ← countKnown, ← countKnown, replaceFrom,
        ← List.singleton_append, ← List.append_assoc, List.count_append, List.count_append]
      rw [List.count_append] at hRest
      omega

theorem count_replace (codes : EmojiCodes) (text : List Char) :
    (codes.replace text).count ':' + 2 * codes.countKnown (names text) = text.count ':' :=
  count_replaceFrom nofun

theorem count_replace_le (codes : EmojiCodes) (text : List Char) :
    (codes.replace text).count ':' ≤ text.count ':' :=
  Nat.le.intro (count_replace codes text)

/-- A text that keeps its colons is free. -/
theorem isFree_of_count (h : text.count ':' ≤ (codes.replace text).count ':') :
    codes.IsFree text := by
  have hCount := count_replace codes text
  have hNone : codes.countKnown (names text) = 0 := by omega
  intro name hMem
  simpa using List.countP_eq_zero.mp hNone name hMem

/-- Replacing codes changes nothing exactly if no code names an emoji. -/
theorem replace_eq_self_iff : codes.replace text = text ↔ codes.IsFree text :=
  ⟨fun h => isFree_of_count (Nat.le_of_eq (congrArg (List.count ':') h.symm)),
    replaceFrom_of_isFree⟩

end Replaced

end PatchCoverage.Console.EmojiCodes
