import PatchCoverage.Xml.Doctype

namespace PatchCoverage.Xml

/-!
# Namespaces and attributes of an element

The attributes that an element writes are completed by declared defaults.
Those that bind names to namespaces are taken out; all other names are then
looked up, and no attribute may occur twice, under its written name or in its
namespace.
-/

/-- The namespaces that prefixes stand for; the empty prefix is that of names
without one. -/
abbrev Scope := List (List Char × List Char)

/-- The namespace of the prefix `xml`. -/
def xmlNamespace : List Char := "http://www.w3.org/XML/1998/namespace".toList

/-- The namespace of the prefix `xmlns`. -/
def xmlnsNamespace : List Char := "http://www.w3.org/2000/xmlns/".toList

/-- What holds outside of every element. -/
def Scope.initial : Scope :=
  [("xml".toList, xmlNamespace)]

/-- Binds a prefix, unless a rule about reserved names forbids it. -/
def Scope.bind? (scope : Scope) (label namespaceName : List Char) : Option Scope :=
  if label == "xmlns".toList then none
  else if namespaceName.isEmpty && !label.isEmpty then none
  else if (label == "xml".toList) != (namespaceName == xmlNamespace) then none
  else if namespaceName == xmlnsNamespace || namespaceName.contains '}' then none
  else some ((label, namespaceName) :: scope)

/-- The prefix that an attribute binds, if it is of that kind. -/
def boundLabel? (name : List Char) : Option (List Char) :=
  if name == "xmlns".toList then some []
  else if name.take 6 == "xmlns:".toList then some (name.drop 6)
  else none

/-- The two parts of a name; without a colon the first one is empty. -/
def splitName (name : List Char) : List Char × List Char :=
  if name.contains ':' then
    (name.takeWhile (· != ':'), (name.dropWhile (· != ':')).drop 1)
  else ([], name)

/-- A name in a namespace. -/
def namespacedName (namespaceName localPart : List Char) : String :=
  String.ofList ('{' :: namespaceName ++ '}' :: localPart)

/-- The full name of an element. -/
def Scope.elementName? (scope : Scope) (name : List Char) : Option String :=
  let (label, localPart) := splitName name
  match scope.lookup label with
  | some [] => some (String.ofList localPart)
  | some namespaceName => some (namespacedName namespaceName localPart)
  | none => if label.isEmpty then some (String.ofList localPart) else none

/-- The full name of an attribute; one without a prefix is in no namespace. -/
def Scope.attributeName? (scope : Scope) (name : List Char) : Option String :=
  let (label, localPart) := splitName name
  if label.isEmpty then some (String.ofList localPart)
  else (scope.lookup label).map fun namespaceName => namespacedName namespaceName localPart

/-- Whether no two items are equal. -/
def allDistinct {α : Type} [BEq α] : List α → Bool
  | [] => true
  | item :: items => !items.contains item && allDistinct items

/-- An attribute as it is written: its name and its value. -/
abbrev WrittenAttribute := List Char × List Char

/-- The attributes of an element with their values in final form, and with the
declared defaults of those that are not written. -/
def completeAttributes (rules : List AttributeRule) (written : List WrittenAttribute) :
    List WrittenAttribute :=
  let final := written.map fun (name, value) =>
    match rules.find? fun rule => rule.name == name with
    | some rule => (name, if rule.isPlain then value else collapseSpaces value)
    | none => (name, value)
  let missing := rules.filterMap fun rule =>
    if written.any fun (name, _) => name == rule.name then none
    else rule.default.map fun value => (rule.name, value)
  final ++ missing

/-- Binds all prefixes that attributes bind. -/
def Scope.bindAll? (scope : Scope) (attributes : List WrittenAttribute) : Option Scope :=
  attributes.foldlM (fun scope (name, value) =>
    match boundLabel? name with
    | some label => scope.bind? label value
    | none => some scope) scope

/-- The start of an element: its scope, its name and its attributes. -/
def resolveStart? (doctype : Doctype) (scope : Scope) (name : List Char)
    (written : List WrittenAttribute) : Option (Scope × String × List (String × String)) := do
  if !allDistinct (written.map (·.1)) then none
  let attributes := completeAttributes (doctype.rulesFor name) written
  let scope ← scope.bindAll? attributes
  let kept := attributes.filter fun (name, _) => (boundLabel? name).isNone
  let resolved ← kept.mapM fun (name, value) =>
    (scope.attributeName? name).map fun name => (name, String.ofList value)
  if !allDistinct (resolved.map (·.1)) then none
  let fullName ← scope.elementName? name
  some (scope, fullName, resolved)

end PatchCoverage.Xml
