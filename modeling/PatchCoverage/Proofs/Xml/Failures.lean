import PatchCoverage.Proofs.Failure
import PatchCoverage.Report.FromXml

namespace PatchCoverage.Xml

/-!
# Documents that cannot be read

A document that cannot be read is malformed or declares an entity, which has a
wording, or it names a character set that nothing can be read in, which has
none.  `IsUnusable` says so of a name, and `declaredCharset?` finds the name at
the start of a document.

The main statement is `answered_ofOctets_iff`: these names are the only ones for
which the reading of a document ends with an error without a wording.
-/

variable {wording : String}

/-! ## Declarations -/

theorem answered_malformed {α : Type} :
    Answered (Fault.message? wording) (.error .malformed : Except Fault α) :=
  answered_error_iff.mpr ⟨_, rfl⟩

theorem answered_refusal {α : Type} (name : List Char) (id : OutsideId) :
    Answered (Fault.message? wording) (.error (refusal name id) : Except Fault α) :=
  answered_error_iff.mpr ⟨_, rfl⟩

theorem answered_orMalformed {α : Type} (result : Option α) :
    Answered (Fault.message? wording) (orMalformed result) := by
  cases result with
  | none => exact answered_malformed
  | some value => exact answered_ok value

theorem answered_takeEnd (text : List Char) :
    Answered (Fault.message? wording) (match takeEnd? text with
      | some rest => pure rest
      | _ => .error .malformed : Except Fault (List Char)) := by
  cases takeEnd? text with
  | none => exact answered_malformed
  | some rest => exact answered_ok rest

theorem answered_readEntityDeclaration (doctype : Doctype) (text : List Char) :
    Answered (Fault.message? wording) (readEntityDeclaration doctype text) := by
  unfold readEntityDeclaration
  split
  dsimp only [throw, throwThe, MonadExceptOf.throw]
  split
  · split
    · -- The entity is a text in quotes.
      refine .ite ((answered_refusal _ _).bind fun _ => ?_) ?_
      all_goals
        exact .ite (answered_malformed.bind fun _ => answered_takeEnd _) (answered_takeEnd _)
    · -- The entity is outside of the document.
      split
      · split
        · exact .ite ((answered_refusal _ _).bind fun _ => answered_ok _) (answered_ok _)
        · refine .ite (answered_malformed.bind fun _ => ?_) ?_
          all_goals
            split
            · exact .ite ((answered_refusal _ _).bind fun _ => answered_takeEnd _)
                (answered_takeEnd _)
            · exact answered_malformed
        · exact answered_malformed
      · exact answered_malformed
    · exact answered_malformed
  · exact answered_malformed

theorem answered_readDeclaration (doctype : Doctype) (text : List Char) :
    Answered (Fault.message? wording) (readDeclaration doctype text) := by
  unfold readDeclaration
  refine (answered_orMalformed _).bind fun _ => .ite ?_ (.ite ?_ (.ite ?_ (.ite ?_ ?_)))
  · exact (answered_readEntityDeclaration _ _).bind fun _ => answered_ok _
  · exact (answered_orMalformed _).bind fun _ => answered_orMalformed _
  · exact (answered_orMalformed _).bind fun _ => answered_ok _
  · exact (answered_orMalformed _).bind fun _ => answered_ok _
  · exact answered_malformed

theorem answered_readDeclarations (doctype : Doctype) (text : List Char) (fuel : Nat) :
    Answered (Fault.message? wording) (readDeclarations doctype text fuel) := by
  fun_induction readDeclarations doctype text fuel
  case case6 hFault => exact answered_of_eq_error hFault (answered_readDeclaration _ _)
  all_goals first
    | assumption
    | exact answered_malformed
    | exact answered_ok _

theorem answered_takeDeclarations (doctype : Doctype) (part : Part) (text : List Char) :
    Answered (Fault.message? wording) (match part with
      | .sign '>' => pure (doctype, text)
      | .sign '[' => do
          let (doctype, rest) ← readDeclarations doctype text (text.length + 1)
          let rest ← orMalformed (takeEnd? rest)
          pure (doctype, rest)
      | _ => throw .malformed : Except Fault (Doctype × List Char)) := by
  split
  · exact answered_ok _
  · refine (answered_readDeclarations _ _ _).bind fun _ => ?_
    exact (answered_orMalformed _).bind fun _ => answered_ok _
  · exact answered_malformed

theorem answered_readDoctype (standsAlone : Bool) (text : List Char) :
    Answered (Fault.message? wording) (readDoctype standsAlone text) := by
  unfold readDoctype
  refine (answered_orMalformed _).bind fun _ => ?_
  dsimp only
  split
  · refine (answered_orMalformed _).bind fun _ => (answered_orMalformed _).bind fun _ => ?_
    exact answered_takeDeclarations _ _ _
  · exact answered_takeDeclarations _ _ _
  · exact answered_malformed

/-- Behind its declaration a document that cannot be read has a wording for that. -/
theorem answered_readProlog (doctype : Doctype) (declared : Bool) (text : List Char) (fuel : Nat) :
    Answered (Fault.message? wording) (readProlog doctype declared text fuel) := by
  fun_induction readProlog doctype declared text fuel
  case case6 hFault => exact answered_of_eq_error hFault (answered_readDoctype _ _)
  all_goals first
    | assumption
    | exact answered_malformed
    | exact answered_ok _

/-! ## Character sets -/

/-- Character sets that documents are read in without a table. -/
def standardCharsets : List String :=
  ["UTF-8", "US-ASCII", "ISO-8859-1", "UTF-16", "UTF-16BE", "UTF-16LE"]

/-- Nothing can be read in the character set of a name: a character takes several
octets, or cannot be read at all, or nothing is known of the name. -/
def IsUnusable (name : List Char) : Prop :=
  String.ofList (name.map Char.toUpper) ∉ standardCharsets ∧
    (Charset.named name = .severalOctets ∨
      (∃ lowerHalf, Charset.named name = .unreadable lowerHalf) ∨ Charset.named name = .unknown)

/-- The name of the character set that a document declares. -/
def declaredCharset? (octets : List UInt8) : Option (List Char) :=
  let (width, octets) := detectWidth octets
  (takeDeclaration? (width.characters octets)).bind fun (body, _) =>
    (readDeclarationText? body).bind Declaration.charset

theorem answered_namedCharacters_iff {width : Width} {name : List Char} {octets : List UInt8} :
    Answered (Fault.message? wording) (namedCharacters width name octets) ↔ ¬ IsUnusable name := by
  have hWidth : ∀ (expected : Width) (characters : List UInt8 → List Char),
      Answered (Fault.message? wording) (if width = expected then .ok (characters octets)
        else .error .malformed : Except Fault (List Char)) := fun _ _ =>
    .ite (answered_ok _) answered_malformed
  unfold namedCharacters IsUnusable
  dsimp only
  by_cases hStandard : String.ofList (name.map Char.toUpper) ∈ standardCharsets
  · refine iff_of_true ?_ fun h => h.1 hStandard
    simp only [standardCharsets, List.mem_cons, List.not_mem_nil, or_false] at hStandard
    rcases hStandard with h | h | h | h | h | h
    all_goals rw [h]
    · exact hWidth _ _
    · exact hWidth _ _
    · exact hWidth _ _
    · cases width with
      | octets => exact answered_malformed
      | units bigEndian => exact answered_ok _
    · exact hWidth _ _
    · exact hWidth _ _
  · have hNames := hStandard
    simp only [standardCharsets, List.mem_cons, List.not_mem_nil, or_false, not_or] at hNames
    obtain ⟨hUtf8, hAscii, hLatin, hUtf16, hBig, hLittle⟩ := hNames
    simp only [beq_iff_eq, hUtf8, hAscii, hLatin, hUtf16, hBig, hLittle, if_false]
    cases hNamed : Charset.named name with
    | singleOctets highest missing => simp [answered_ok]
    | foreign => simp [answered_malformed]
    | severalOctets => simp [answered_error_iff, Fault.message?, hStandard]
    | unreadable lowerHalf => simp [answered_error_iff, Fault.message?, hStandard]
    | unknown => simp [answered_error_iff, Fault.message?, hStandard]

theorem answered_source_iff (octets : List UInt8) :
    Answered (Fault.message? wording) (Source.ofOctets octets) ↔
      ∀ name, declaredCharset? octets = some name → ¬ IsUnusable name := by
  unfold Source.ofOctets declaredCharset?
  dsimp only
  cases takeDeclaration? ((detectWidth octets).1.characters (detectWidth octets).2) with
  | none => simp [answered_ok]
  | some declaration =>
      obtain ⟨body, length⟩ := declaration
      dsimp only [Option.bind_some]
      cases readDeclarationText? body with
      | none => simp [answered_malformed]
      | some declaration =>
          obtain ⟨charset, standsAlone⟩ := declaration
          cases charset with
          | none => simp [answered_ok]
          | some name => simp [answered_map_iff, answered_namedCharacters_iff]

/-- A document is read, or fails with an error that has a wording, exactly if it does
not declare a character set that cannot be used. -/
theorem answered_ofOctets_iff (octets : List UInt8) :
    Answered (Fault.message? wording) (Element.ofOctets octets) ↔
      ∀ name, declaredCharset? octets = some name → ¬ IsUnusable name := by
  unfold Element.ofOctets
  rw [answered_bind_iff fun _ => answered_readProlog _ _ _ _, answered_source_iff]

/-! ## A name that nothing is known of -/

/-- Nothing is known of a name that is in none of the lists. -/
theorem named_eq_unknown {name plain : List Char} (hPlain : plainName false [] name = plain)
    (hSingle : (singleOctetSets.find? fun (names, _) => lists names plain) = none)
    (hSeveral : lists severalOctetSets plain = false) (hTilde : lists tildeSets plain = false)
    (hForeign : lists foreignSets plain = false)
    (hWords : plain ≠ "idna".toList ∧ plain ≠ "undefined".toList ∧ plain ≠ "punycode".toList) :
    Charset.named name = .unknown := by
  have hLimited :
      (decide (plain = "idna".toList) || decide (plain = "undefined".toList)) = false := by
    rw [decide_eq_false hWords.1, decide_eq_false hWords.2.1, Bool.or_false]
  subst hPlain
  unfold Charset.named
  dsimp only
  rw [hSingle]
  dsimp only
  rw [if_neg (Bool.eq_false_iff.mp hSeveral), if_neg (Bool.eq_false_iff.mp hTilde),
    if_neg (Bool.eq_false_iff.mp hForeign), if_neg (Bool.eq_false_iff.mp hLimited),
    if_neg hWords.2.2]

/-- Underscores written as dots do not matter for a name without any. -/
theorem lists_eq_contains {names : String} {name : List Char} (h : '.' ∉ name) :
    lists names name = (wordsOf names).contains name := by
  have hSame : (name.map fun c => if c = '.' then '_' else c) = name := by
    refine (List.map_congr_left fun c hMem => if_neg ?_).trans (List.map_id name)
    rintro rfl
    exact h hMem
  unfold lists
  dsimp only
  rw [hSame]
  cases (wordsOf names).contains name <;> rfl

/-- A name as it is looked up. -/
def noneSuch : List Char :=
  ['n', 'o', 'n', 'e', '_', 's', 'u', 'c', 'h']

theorem notMem_singleOctetSets :
    (singleOctetSets.all fun entry => !(wordsOf entry.1).contains noneSuch) = true := by
  simp only [singleOctetSets, List.all_cons, List.all_nil, wordsOf, String.toList_append]
  -- The texts become lists of characters before anything is looked up in them.
  repeat rw [String.toList_ofList]
  decide +kernel

theorem notMem_severalOctetSets : (wordsOf severalOctetSets).contains noneSuch = false := by
  unfold wordsOf severalOctetSets
  repeat rw [String.toList_append]
  repeat rw [String.toList_ofList]
  decide +kernel

theorem notMem_tildeSets : (wordsOf tildeSets).contains noneSuch = false := by
  unfold wordsOf tildeSets
  rw [String.toList_ofList]
  decide +kernel

theorem notMem_foreignSets : (wordsOf foreignSets).contains noneSuch = false := by
  unfold wordsOf foreignSets
  repeat rw [String.toList_append]
  repeat rw [String.toList_ofList]
  decide +kernel

theorem isUnusable_noneSuch : IsUnusable "none-such".toList := by
  have hLists : ∀ names, lists names noneSuch = (wordsOf names).contains noneSuch := fun _ =>
    lists_eq_contains (by decide)
  refine ⟨by decide +kernel, .inr (.inr ?_)⟩
  have hPlain : plainName false [] "none-such".toList = noneSuch := by decide +kernel
  refine named_eq_unknown hPlain (List.find?_eq_none.mpr ?_)
    ((hLists _).trans notMem_severalOctetSets) ((hLists _).trans notMem_tildeSets)
    ((hLists _).trans notMem_foreignSets) (by decide +kernel)
  rintro ⟨names, charset⟩ hMem
  have hEntry := List.all_eq_true.mp notMem_singleOctetSets _ hMem
  dsimp only
  rw [hLists]
  simpa using hEntry

end PatchCoverage.Xml
