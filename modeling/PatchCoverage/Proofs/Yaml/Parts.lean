import PatchCoverage.Config.Placeholder

namespace PatchCoverage.Yaml.Value

/-!
# Parts of a value

`all` asks a test of every part of a value, of keys and members too.  Two of the
tests say of a document that no part of it stands for something around it, and
that no integer in it is long.

The lemmas below tie both to what loading a configuration needs, and say how a
setting is looked up: `setting?` is the value of a key in a mapping in a mapping,
and replacing placeholders changes that value alone.
-/

/-! ## A test of every part -/

mutual

/-- Whether every part of a value passes a test. -/
def all (test : Value → Bool) : Value → Bool
  | sequence items => test (sequence items) && allItems test items
  | mapping entries => test (mapping entries) && allEntries test entries
  | members items => test (members items) && allItems test items
  | pair key value => test (pair key value) && all test key && all test value
  | value => test value

/-- Whether every part of the values passes a test. -/
def allItems (test : Value → Bool) : List Value → Bool
  | [] => true
  | item :: items => all test item && allItems test items

/-- Whether every part of the entries passes a test. -/
def allEntries (test : Value → Bool) : List (Value × Value) → Bool
  | [] => true
  | (key, value) :: entries => all test key && all test value && allEntries test entries

end

/-- Whether a value is an integer of more digits than allowed. -/
def isLongInteger (digits : Nat) : Value → Bool
  | integer value => decide (Nat.pow 10 digits ≤ value.natAbs)
  | _ => false

/-- Whether a value stands for something around it. -/
def isEnclosing : Value → Bool
  | enclosing _ => true
  | _ => false

/-- A value in which every integer has at most the given number of digits. -/
def IntegersWithin (digits : Nat) (value : Value) : Prop :=
  value.all (fun part => !part.isLongInteger digits) = true

instance (digits : Nat) : DecidablePred (IntegersWithin digits) :=
  fun _ => inferInstanceAs (Decidable (_ = _))

/-- A value that mentions nothing that it is itself a part of. -/
def IsUnfolded (value : Value) : Prop :=
  value.all (fun part => !part.isEnclosing) = true

instance : DecidablePred IsUnfolded :=
  fun _ => inferInstanceAs (Decidable (_ = _))

theorem natAbs_lt_of_integersWithin {digits : Nat} {value : Int}
    (h : (integer value).IntegersWithin digits) : value.natAbs < Nat.pow 10 digits := by
  simpa [IntegersWithin, all, isLongInteger] using h

theorem integerFits_of_lt {digits : Nat} {value : Int} (hDigits : digits ≤ digitLimit)
    (hLess : value.natAbs < Nat.pow 10 digits) : integerFits value = true := by
  unfold integerFits
  -- The limit is large, and nothing but its place in the order matters.
  generalize digitLimit = limit at hDigits ⊢
  exact decide_eq_true
    (Nat.lt_of_lt_of_le hLess (Nat.pow_le_pow_right (by decide) hDigits))

mutual

/-- A value without long integers can be written. -/
theorem isWritable_of_integersWithin {digits : Nat} (hDigits : digits ≤ digitLimit) :
    ∀ {value : Value}, value.IntegersWithin digits → value.isWritable = true
  | integer _, h => integerFits_of_lt hDigits (natAbs_lt_of_integersWithin h)
  | sequence items, h => by
      simp only [IntegersWithin, all, Bool.and_eq_true] at h
      exact itemsWritable_of_integersWithin hDigits h.2
  | mapping entries, h => by
      simp only [IntegersWithin, all, Bool.and_eq_true] at h
      exact entriesWritable_of_integersWithin hDigits h.2
  | members items, h => by
      simp only [IntegersWithin, all, Bool.and_eq_true] at h
      exact itemsWritable_of_integersWithin hDigits h.2
  | pair key value, h => by
      simp only [IntegersWithin, all, Bool.and_eq_true] at h
      simp only [isWritable, Bool.and_eq_true]
      exact ⟨isWritable_of_integersWithin hDigits h.1.2,
        isWritable_of_integersWithin hDigits h.2⟩
  | null, _ | bool _, _ | number _, _ | string _, _ | octets _, _ | date _, _ | timestamp _, _
  | enclosing _, _ => rfl

theorem itemsWritable_of_integersWithin {digits : Nat} (hDigits : digits ≤ digitLimit) :
    ∀ {items : List Value}, allItems (fun part => !part.isLongInteger digits) items = true →
      itemsWritable items = true
  | [], _ => rfl
  | item :: items, h => by
      simp only [allItems, Bool.and_eq_true] at h
      simp only [itemsWritable, Bool.and_eq_true]
      exact ⟨isWritable_of_integersWithin hDigits h.1,
        itemsWritable_of_integersWithin hDigits h.2⟩

theorem entriesWritable_of_integersWithin {digits : Nat} (hDigits : digits ≤ digitLimit) :
    ∀ {entries : List (Value × Value)},
      allEntries (fun part => !part.isLongInteger digits) entries = true →
        entriesWritable entries = true
  | [], _ => rfl
  | (key, value) :: entries, h => by
      simp only [allEntries, Bool.and_eq_true] at h
      simp only [entriesWritable, Bool.and_eq_true]
      exact ⟨⟨isWritable_of_integersWithin hDigits h.1.1,
        isWritable_of_integersWithin hDigits h.1.2⟩,
        entriesWritable_of_integersWithin hDigits h.2⟩

end

mutual

/-- A value that mentions nothing around it has no endless chain of mappings. -/
theorem isEndless_of_isUnfolded :
    ∀ {value : Value}, value.IsUnfolded → value.isEndless = false
  | mapping entries, h => by
      simp only [IsUnfolded, all, Bool.and_eq_true] at h
      exact entriesEndless_of_isUnfolded h.2
  | enclosing isMapping, h => by
      simp [IsUnfolded, all, isEnclosing] at h
  | null, _ | bool _, _ | integer _, _ | number _, _ | string _, _ | octets _, _ | date _, _
  | timestamp _, _ | sequence _, _ | members _, _ | pair _ _, _ => rfl

theorem entriesEndless_of_isUnfolded :
    ∀ {entries : List (Value × Value)},
      allEntries (fun part => !part.isEnclosing) entries = true → entriesEndless entries = false
  | [], _ => rfl
  | (key, value) :: entries, h => by
      simp only [allEntries, Bool.and_eq_true] at h
      simp only [entriesEndless, Bool.or_eq_false_iff]
      exact ⟨isEndless_of_isUnfolded h.1.2, entriesEndless_of_isUnfolded h.2⟩

end

/-! ## Looking up a setting -/

/-- The value of a key of a mapping; what is no mapping has no keys. -/
def member? (name : String) : Value → Option Value
  | mapping entries => entry? name entries
  | _ => none

/-- The value of a setting in a group of a document. -/
def setting? (group name : String) (document : Value) : Option Value :=
  (document.member? group).bind (member? name)

theorem all_of_entry? {test : Value → Bool} {name : String} {found : Value} :
    ∀ {entries : List (Value × Value)}, allEntries test entries = true →
      entry? name entries = some found → found.all test = true := by
  intro entries hAll hFound
  fun_induction entry? name entries with
  | case1 => cases hFound
  | case2 key value entries hKey =>
      obtain rfl := Option.some.inj hFound
      simp only [allEntries, Bool.and_eq_true] at hAll
      exact hAll.1.2
  | case3 key value entries hKey ih =>
      simp only [allEntries, Bool.and_eq_true] at hAll
      exact ih hAll.2 hFound
  | case4 entry entries hEntry ih =>
      obtain ⟨key, value⟩ := entry
      simp only [allEntries, Bool.and_eq_true] at hAll
      exact ih hAll.2 hFound

theorem all_of_member? {test : Value → Bool} {name : String} {value found : Value}
    (hAll : value.all test = true) (hFound : value.member? name = some found) :
    found.all test = true := by
  cases value with
  | mapping entries =>
      simp only [all, Bool.and_eq_true] at hAll
      exact all_of_entry? hAll.2 hFound
  | _ => cases hFound

/-- What holds of every part of a document holds of every part of a setting. -/
theorem all_of_setting? {test : Value → Bool} {group name : String} {document found : Value}
    (hAll : document.all test = true) (hFound : document.setting? group name = some found) :
    found.all test = true := by
  obtain ⟨settings, hSettings, hMember⟩ := Option.bind_eq_some_iff.mp hFound
  exact all_of_member? (all_of_member? hAll hSettings) hMember

section Placeholders

variable (environment : Environment)

theorem entry?_expandEntries (name : String) (entries : List (Value × Value)) :
    entry? name (expandEntries environment entries) =
      (Value.entry? name entries).map (expand environment) := by
  fun_induction entry? name entries with
  | case1 => rfl
  | case2 key value entries hKey => simp [expandEntries, entry?, hKey]
  | case3 key value entries hKey ih => simp [expandEntries, entry?, hKey, ih]
  | case4 entry entries hEntry ih =>
      obtain ⟨key, value⟩ := entry
      cases key with
      | string text => exact (hEntry text value rfl).elim
      | _ => exact ih

theorem member?_expand (name : String) (value : Value) :
    (value.expand environment).member? name =
      (value.member? name).map (expand environment) := by
  cases value with
  | mapping entries => exact entry?_expandEntries environment name entries
  | _ => rfl

/-- Replacing placeholders changes the value of a setting, not where it is. -/
theorem setting?_expand (group name : String) (document : Value) :
    (document.expand environment).setting? group name =
      (document.setting? group name).map (expand environment) := by
  unfold setting?
  rw [member?_expand]
  cases document.member? group with
  | none => rfl
  | some settings => exact member?_expand environment name settings

theorem isWritable_expandItem (item : Value) :
    (item.expandItem environment).isWritable = item.isWritable := by
  cases item <;> rfl

theorem itemsWritable_map_expandItem (items : List Value) :
    itemsWritable (items.map (expandItem environment)) = itemsWritable items := by
  induction items with
  | nil => rfl
  | cons item items ih => simp [itemsWritable, isWritable_expandItem, ih]

mutual

/-- Placeholders are in texts only, so no integer changes. -/
theorem isWritable_expand : ∀ value : Value,
    (value.expand environment).isWritable = value.isWritable
  | mapping entries => entriesWritable_expandEntries entries
  | sequence items => itemsWritable_map_expandItem environment items
  | null | bool _ | integer _ | number _ | string _ | octets _ | date _ | timestamp _
  | members _ | pair _ _ | enclosing _ => rfl

theorem entriesWritable_expandEntries : ∀ entries : List (Value × Value),
    entriesWritable (expandEntries environment entries) = entriesWritable entries
  | [] => rfl
  | (key, value) :: entries => by
      simp [expandEntries, entriesWritable, isWritable_expand value,
        entriesWritable_expandEntries entries]

end

end Placeholders

end PatchCoverage.Yaml.Value
