namespace PatchCoverage

/-!
# Readings that can fail

A reading returns a value or fails with a fault.  Readings one after the other
return what the last one returns, and fail with the first fault; where a later
reading does not depend on the value of an earlier one, its fault can be told
without that value.

Commands answer for an error if it has a wording; `Answered` says of a reading
that it leads to no other error.
-/

section Readings

variable {ε α β γ δ : Type}

/-- What a reading fails with. -/
def faultOf? : Except ε α → Option ε
  | .ok _ => none
  | .error fault => some fault

theorem bind_eq_ok_iff {reading : Except ε α} {next : α → Except ε β} {result : β} :
    (reading >>= next) = .ok result ↔
      ∃ value, reading = .ok value ∧ next value = .ok result := by
  cases reading <;> simp [bind, Except.bind]

theorem map_eq_ok_iff {reading : Except ε α} {convert : α → β} {result : β} :
    reading.map convert = .ok result ↔ ∃ value, reading = .ok value ∧ convert value = result := by
  cases reading <;> simp [Except.map]

/-- Readings one after the other do not fail with an error that none of them fails
with. -/
theorem bind_ne_error {reading : Except ε α} {next : α → Except ε β} {error : ε}
    (hReading : reading ≠ .error error) (hNext : ∀ value, next value ≠ .error error) :
    (reading >>= next) ≠ .error error := by
  cases reading with
  | error fault => exact fun h => hReading (congrArg Except.error (Except.error.inj h))
  | ok value => exact hNext value

theorem mapError_eq_ok_iff {reading : Except ε α} {convert : ε → β} {value : α} :
    reading.mapError convert = .ok value ↔ reading = .ok value := by
  cases reading with
  | error fault => exact ⟨nofun, nofun⟩
  | ok result =>
      exact ⟨fun h => congrArg Except.ok (Except.ok.inj h),
        fun h => congrArg Except.ok (Except.ok.inj h)⟩

theorem mapError_eq_error_iff {reading : Except ε α} {convert : ε → β} {error : β} :
    reading.mapError convert = .error error ↔
      ∃ fault, faultOf? reading = some fault ∧ error = convert fault := by
  cases reading with
  | error fault =>
      change Except.error (convert fault) = .error error ↔ _
      simp [faultOf?, eq_comm]
  | ok result =>
      change Except.ok result = .error error ↔ _
      simp [faultOf?]

/-- A reading whose failures are those of a first fault succeeds exactly if there
is no fault. -/
theorem exists_eq_ok_iff {reading : Except ε α} {first? : Option β} {convert : β → ε}
    (h : ∀ error, reading = .error error ↔
      ∃ fault, first? = some fault ∧ error = convert fault) :
    (∃ value, reading = .ok value) ↔ first? = none := by
  cases reading with
  | error error =>
      obtain ⟨fault, hFirst, -⟩ := (h error).mp rfl
      simp [hFirst]
  | ok value =>
      cases first? with
      | none => simp
      | some fault => cases (h (convert fault)).mpr ⟨fault, rfl, rfl⟩

theorem exists_of_toOption_map {reading : Except ε α} {part : α → β} {value : β}
    (h : (reading.map part).toOption = some value) :
    ∃ result, reading = .ok result ∧ part result = value := by
  cases reading with
  | error fault => cases h
  | ok result => exact ⟨result, rfl, Option.some.inj h⟩

/-- Where later readings fail regardless of what was read before, the first
fault counts. -/
theorem faultOf?_bind {reading : Except ε α} {next : α → Except ε β} {later : Option ε}
    (h : ∀ value, faultOf? (next value) = later) :
    faultOf? (reading >>= next) = (faultOf? reading).or later := by
  cases reading with
  | error fault => rfl
  | ok value => exact h value

/-- Of three readings that are all made into one result the first fault counts. -/
theorem faultOf?_three {first : Except ε α} {second : Except ε β} {third : Except ε γ}
    {make : α → β → γ → δ} :
    faultOf? (do
      let left ← first
      let middle ← second
      let right ← third
      pure (make left middle right)) =
      (faultOf? first).or ((faultOf? second).or (faultOf? third)) := by
  refine faultOf?_bind fun left => faultOf?_bind fun middle => ?_
  cases third <;> rfl

theorem findSome?_cons_eq_or (find? : α → Option β) (first : α) (rest : List α) :
    (first :: rest).findSome? find? = (find? first).or (rest.findSome? find?) := by
  rw [List.findSome?_cons]
  cases find? first <;> rfl

end Readings

/-! ## Errors with a wording -/

section Answers

variable {ε α β : Type} {message? : ε → Option String}

/-- A reading is answered for: it returns a value, or fails with an error that has a
wording. -/
def Answered (message? : ε → Option String) (reading : Except ε α) : Prop :=
  (∃ value, reading = .ok value) ∨
    ∃ error message, reading = .error error ∧ message? error = some message

theorem answered_ok (value : α) : Answered message? (.ok value : Except ε α) :=
  .inl ⟨value, rfl⟩

theorem answered_error_iff {error : ε} :
    Answered message? (.error error : Except ε α) ↔ ∃ message, message? error = some message := by
  constructor
  · rintro (⟨value, hValue⟩ | ⟨_, message, hError, hMessage⟩)
    · cases hValue
    · exact ⟨message, Except.error.inj hError ▸ hMessage⟩
  · rintro ⟨message, hMessage⟩
    exact .inr ⟨error, message, rfl, hMessage⟩

theorem answered_of_eq_error {reading : Except ε α} {error : ε} (h : reading = .error error)
    (hAnswered : Answered message? reading) :
    Answered message? (.error error : Except ε β) :=
  answered_error_iff.mpr (answered_error_iff.mp (h ▸ hAnswered))

/-- Where later readings are answered for, the first one decides. -/
theorem answered_bind_iff {reading : Except ε α} {next : α → Except ε β}
    (hNext : ∀ value, Answered message? (next value)) :
    Answered message? (reading >>= next) ↔ Answered message? reading := by
  cases reading with
  | error error => exact answered_error_iff.trans answered_error_iff.symm
  | ok value => exact iff_of_true (hNext value) (answered_ok value)

theorem Answered.bind {reading : Except ε α} {next : α → Except ε β}
    (hReading : Answered message? reading) (hNext : ∀ value, Answered message? (next value)) :
    Answered message? (reading >>= next) :=
  (answered_bind_iff hNext).mpr hReading

theorem answered_map_iff {reading : Except ε α}
    {convert : α → β} :
    Answered message? (reading.map convert) ↔ Answered message? reading := by
  cases reading with
  | error error => exact answered_error_iff.trans answered_error_iff.symm
  | ok value => exact iff_of_true (answered_ok _) (answered_ok _)

theorem Answered.ite {condition : Prop} [Decidable condition] {first second : Except ε α}
    (hFirst : Answered message? first) (hSecond : Answered message? second) :
    Answered message? (if condition then first else second) := by
  split
  · exact hFirst
  · exact hSecond

end Answers

end PatchCoverage
