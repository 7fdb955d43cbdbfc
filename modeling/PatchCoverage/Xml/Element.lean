namespace PatchCoverage.Xml

/-!
# The tree of a document

Of a document only its elements are kept, with their attributes.  A name in a
namespace is written with the namespace in braces in front of it.
-/

/-- An element of a document. -/
inductive Element where
  /-- An element with its name, its attributes and the elements inside it. -/
  | node (name : String) (attributes : List (String × String)) (children : List Element)

/-- Why a document has no tree. -/
inductive Fault where
  /-- It is not well-formed. -/
  | malformed
  /-- It declares an entity, which is refused. -/
  | entityDeclared (name : String) (systemId publicId : Option String)
  /-- It is written in a character set of which nothing is known. -/
  | unknownCharset
  /-- It is written in a character set of several octets. -/
  | severalOctets
  /-- It is written in a character set that nothing can be read in, or only
  octets of the lower half. -/
  | unreadableCharset (lowerHalf : Bool)
  deriving DecidableEq, Repr

namespace Element

mutual

/-- Decides whether two elements are the same. -/
def decideEq : ∀ first second : Element, Decidable (first = second)
  | node name attributes children, node otherName otherAttributes others =>
    match decEq name otherName, decEq attributes otherAttributes, decideListEq children others with
    | .isTrue hName, .isTrue hAttributes, .isTrue hChildren =>
      .isTrue (by rw [hName, hAttributes, hChildren])
    | .isFalse hName, _, _ => .isFalse fun h => hName (Element.node.inj h).1
    | _, .isFalse hAttributes, _ => .isFalse fun h => hAttributes (Element.node.inj h).2.1
    | _, _, .isFalse hChildren => .isFalse fun h => hChildren (Element.node.inj h).2.2

/-- Decides whether two lists of elements are the same. -/
def decideListEq : ∀ first second : List Element, Decidable (first = second)
  | [], [] => .isTrue rfl
  | [], _ :: _ => .isFalse nofun
  | _ :: _, [] => .isFalse nofun
  | element :: elements, other :: others =>
    match decideEq element other, decideListEq elements others with
    | .isTrue hFirst, .isTrue hRest => .isTrue (by rw [hFirst, hRest])
    | .isFalse hFirst, _ => .isFalse fun h => hFirst (List.cons.inj h).1
    | _, .isFalse hRest => .isFalse fun h => hRest (List.cons.inj h).2

end

instance : DecidableEq Element :=
  decideEq

/-- The name of an element. -/
def name : Element → String
  | node name _ _ => name

/-- The attributes of an element, in order. -/
def attributes : Element → List (String × String)
  | node _ attributes _ => attributes

/-- The elements directly inside an element, in order. -/
def children : Element → List Element
  | node _ _ children => children

/-- The value of an attribute. -/
def attribute? (element : Element) (name : String) : Option String :=
  element.attributes.lookup name

/-- The elements of a name that stand directly inside an element. -/
def childrenNamed (element : Element) (name : String) : List Element :=
  element.children.filter fun child => child.name == name

mutual

/-- An element and all that it contains, each before what it contains. -/
def withDescendants : Element → List Element
  | node name attributes children => node name attributes children :: listDescendants children

/-- Elements and all that they contain. -/
def listDescendants : List Element → List Element
  | [] => []
  | element :: elements => withDescendants element ++ listDescendants elements

end

/-- All elements of a name in the order of the document, the outermost one
included. -/
def allNamed (element : Element) (name : String) : List Element :=
  element.withDescendants.filter fun descendant => descendant.name == name

end Element

end PatchCoverage.Xml
