import PatchCoverage.Json.Reader
import PatchCoverage.Proofs.Number.Numeral

namespace PatchCoverage

/-!
# The grammar of JSON texts

`Json.IsTextOf Form document text` says that a text is a JSON text and which document it
stands for.  Each rule of the grammar names the document of the text it makes up, so that
a text cannot be in the grammar without standing for something:

* a character between quotes stands for itself, or is one escape, or two escapes that
  make up a pair;
* a numeral of digits alone is an integer, and every other one is the number nearest to
  it; `Form` is what is asked of the numeral of a number besides;
* items and fields keep their order, and fields of the same name are all kept.
-/

namespace Json

/-- White space, which may stand between the parts of a document. -/
def IsLayout (text : List Char) : Prop :=
  ∀ c ∈ text, isLayout c = true

theorem isLayout_nil : IsLayout [] :=
  List.forall_mem_nil _

theorem isLayout_blank : IsLayout [' '] :=
  List.forall_mem_singleton.mpr rfl

/-- What a character may be written as between quotes. -/
inductive IsCharacterOf : Char → List Char → Prop
  /-- A character that needs no escape. -/
  | plain {c : Char} (hQuote : c ≠ '"') (hBackslash : c ≠ '\\') (hControl : 32 ≤ c.val) :
      IsCharacterOf c [c]
  /-- A letter after a backslash. -/
  | letter {letter c : Char} (h : shortEscape? letter = some c) : IsCharacterOf c ['\\', letter]
  /-- The code point in four hexadecimal digits. -/
  | unit {c p q r s : Char} (h : hexUnit? p q r s = some c.toNat) :
      IsCharacterOf c ['\\', 'u', p, q, r, s]
  /-- The two units of a code point beyond `0xFFFF`. -/
  | pair {c p q r s p' q' r' s' : Char} {high low : Nat}
      (hFirst : hexUnit? p q r s = some (0xD800 + high))
      (hSecond : hexUnit? p' q' r' s' = some (0xDC00 + low)) (hHigh : high < 1024)
      (hLow : low < 1024) (h : c.toNat = 0x10000 + high * 1024 + low) :
      IsCharacterOf c ['\\', 'u', p, q, r, s, '\\', 'u', p', q', r', s']

/-- A text in quotes, character by character. -/
def IsStringOf (value : String) (text : List Char) : Prop :=
  ∃ parts, List.Forall₂ IsCharacterOf value.toList parts ∧ text = '"' :: (parts.flatten ++ ['"'])

section

variable (Form : Binary64 → Bool → Numeral → Prop)

/-- A numeral of an integer or of another number. -/
inductive IsNumberOf : Json → List Char → Prop
  /-- Digits alone, behind a sign. -/
  | integer (negative : Bool) {digits : List Char} (hDigits : IsWhole digits) :
      IsNumberOf (.integer (if negative then -(digitsValue digits : Int) else digitsValue digits))
        (minusSign negative ++ digits)
  /-- Digits with a point or an exponent. -/
  | number (negative : Bool) {n : Numeral} (hWritten : n.IsWritten) (hFractional : n.IsFractional)
      (hForm : Form (n.value negative) negative n) :
      IsNumberOf (.number (n.value negative)) (minusSign negative ++ n.text)

mutual

/-- A document without white space around it. -/
inductive IsValueOf : Json → List Char → Prop
  /-- The missing value. -/
  | null : IsValueOf .null ['n', 'u', 'l', 'l']
  /-- A truth. -/
  | yes : IsValueOf (.bool true) ['t', 'r', 'u', 'e']
  /-- A falsehood. -/
  | no : IsValueOf (.bool false) ['f', 'a', 'l', 's', 'e']
  /-- A numeral. -/
  | number {document : Json} {text : List Char} (h : IsNumberOf Form document text) :
      IsValueOf document text
  /-- A text in quotes. -/
  | string {value : String} {text : List Char} (h : IsStringOf value text) :
      IsValueOf (.string value) text
  /-- A list without items. -/
  | noItems {layout : List Char} (hLayout : IsLayout layout) :
      IsValueOf (.array []) ('[' :: (layout ++ [']']))
  /-- A list of items. -/
  | array {items : List Json} {text : List Char} (h : IsItemsOf items text) :
      IsValueOf (.array items) ('[' :: (text ++ [']']))
  /-- An object without fields. -/
  | noFields {layout : List Char} (hLayout : IsLayout layout) :
      IsValueOf (.object []) ('{' :: (layout ++ ['}']))
  /-- An object of fields. -/
  | object {fields : List (String × Json)} {text : List Char} (h : IsFieldsOf fields text) :
      IsValueOf (.object fields) ('{' :: (text ++ ['}']))

/-- A document with white space around it. -/
inductive IsTextOf : Json → List Char → Prop
  /-- White space, a document and white space. -/
  | padded {document : Json} {before text after : List Char} (hBefore : IsLayout before)
      (hText : IsValueOf document text) (hAfter : IsLayout after) :
      IsTextOf document (before ++ (text ++ after))

/-- One item or more with commas between them. -/
inductive IsItemsOf : List Json → List Char → Prop
  /-- The last item. -/
  | last {item : Json} {text : List Char} (hItem : IsTextOf item text) : IsItemsOf [item] text
  /-- An item, a comma and the others. -/
  | more {item : Json} {items : List Json} {text rest : List Char} (hItem : IsTextOf item text)
      (hRest : IsItemsOf items rest) : IsItemsOf (item :: items) (text ++ ',' :: rest)

/-- A name and a document. -/
inductive IsFieldOf : String × Json → List Char → Prop
  /-- A name in quotes, a colon and a document. -/
  | named {name : String} {value : Json} {before nameText behind text : List Char}
      (hBefore : IsLayout before) (hName : IsStringOf name nameText) (hBehind : IsLayout behind)
      (hValue : IsTextOf value text) :
      IsFieldOf (name, value) (before ++ (nameText ++ (behind ++ ':' :: text)))

/-- One field or more with commas between them. -/
inductive IsFieldsOf : List (String × Json) → List Char → Prop
  /-- The last field. -/
  | last {field : String × Json} {text : List Char} (hField : IsFieldOf field text) :
      IsFieldsOf [field] text
  /-- A field, a comma and the others. -/
  | more {field : String × Json} {fields : List (String × Json)} {text rest : List Char}
      (hField : IsFieldOf field text) (hRest : IsFieldsOf fields rest) :
      IsFieldsOf (field :: fields) (text ++ ',' :: rest)

end

end

end Json

end PatchCoverage
