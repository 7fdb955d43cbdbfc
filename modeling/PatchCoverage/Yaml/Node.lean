import PatchCoverage.Yaml.Written

namespace PatchCoverage.Yaml

/-!
# The tree of a document

In a tree every alias is replaced by the node that it mentions.  A tree cannot
contain itself, so a list or mapping within itself is a mark.

What is reached from the outermost mapping through mappings alone is taken
apart: these mappings and the lists directly in them stand for nothing but
their parts.  So a list that is taken apart is met once more as a node where
its own items mention it, and only a mention within that one is a mark.

A mapping that is taken in by another stands for nothing but its entries,
either.
-/

/-- A node of a document. -/
inductive Node where
  /-- A text. -/
  | scalar (tag : Tag) (text : String)
  /-- A list. -/
  | sequence (tag : Tag) (items : List Node)
  /-- Keys with values. -/
  | mapping (tag : Tag) (entries : List (Node × Node))
  /-- A mention of a node that contains this place. -/
  | enclosing (isMapping : Bool)

/-- Whether a key is the one that takes in other mappings. -/
def isMergeKey : Node → Bool
  | .scalar .merge _ => true
  | _ => false

namespace WrittenNode

mutual

/-- The nodes that are given names in a node. -/
def definitions : WrittenNode → List (String × WrittenNode)
  | scalar .. => []
  | sequence _ _ items => itemDefinitions items
  | mapping _ _ entries => entryDefinitions entries
  | anchored name node => (name, node) :: definitions node
  | mention _ => []

/-- The nodes that are given names in items. -/
def itemDefinitions : List WrittenNode → List (String × WrittenNode)
  | [] => []
  | item :: items => definitions item ++ itemDefinitions items

/-- The nodes that are given names in entries. -/
def entryDefinitions : List (WrittenNode × WrittenNode) → List (String × WrittenNode)
  | [] => []
  | (key, value) :: entries => definitions key ++ definitions value ++ entryDefinitions entries

end

/-- Where a node stands. -/
structure Surroundings where
  /-- Whether it is taken apart. -/
  apart : Bool
  /-- The numbers of the lists and mappings above it. -/
  above : List Nat
  /-- Those of the mappings that are taken in together with it, if it is taken
  in. -/
  taken? : Option (List Nat)

/-- The surroundings of the items of a list that is met in some surroundings. -/
def Surroundings.ofItems (place : Surroundings) (number : Nat) : Surroundings :=
  match place.taken?, place.apart with
  | some _, _ => place
  | none, true => ⟨false, [], none⟩
  | none, false => ⟨false, number :: place.above, none⟩

/-- The surroundings of the values of a mapping; `taken` are the mappings that
are taken in together, the mapping itself at least. -/
def Surroundings.ofValue (place : Surroundings) (number : Nat) (isMerged : Bool) :
    Surroundings :=
  match place.taken? with
  | some taken => ⟨place.apart, place.above, if isMerged then some (number :: taken) else none⟩
  | none => ⟨place.apart, number :: place.above, if isMerged then some [number] else none⟩

/-- Whether a list or mapping within the surroundings is met within itself. -/
def Surroundings.encloses (place : Surroundings) (number : Nat) : Bool :=
  (place.taken?.getD place.above).contains number

mutual

/-- The tree of a node; `follow` gives that of a mention. -/
def toNode (follow : Surroundings → String → Node) (place : Surroundings) : WrittenNode → Node
  | scalar tag text => .scalar tag text
  | sequence number tag items =>
    if place.encloses number then .enclosing false
    else .sequence tag (toItems follow (place.ofItems number) items)
  | mapping number tag entries =>
    if place.encloses number then .enclosing true
    else .mapping tag (toEntries follow (place.ofValue number) entries)
  | anchored _ node => toNode follow place node
  | mention name => follow place name

/-- The trees of items. -/
def toItems (follow : Surroundings → String → Node) (place : Surroundings) :
    List WrittenNode → List Node
  | [] => []
  | item :: items => toNode follow place item :: toItems follow place items

/-- The trees of entries; a value is taken in or not, which decides on its
surroundings. -/
def toEntries (follow : Surroundings → String → Node) (place : Bool → Surroundings) :
    List (WrittenNode × WrittenNode) → List (Node × Node)
  | [] => []
  | (key, value) :: entries =>
    let key := toNode follow (place false) key
    (key, toNode follow (place (isMergeKey key)) value) :: toEntries follow place entries

end

/-- The tree of a mention. The fuel bounds how many mentions lead on from each
other. -/
def follow (names : List (String × WrittenNode)) : Nat → Surroundings → String → Node
  | 0, _, _ => .enclosing true
  | fuel + 1, place, name =>
    match names.lookup name with
    | some node => toNode (follow names fuel) place node
    | none => .enclosing true

end WrittenNode

/-- The tree of a document's outermost node. Mentions that lead on from each
other are of different nodes, in the part that is taken apart, within it, and
between any two of them among the mappings that are taken in; this bounds their
number. -/
def Node.ofWritten (written : WrittenNode) : Node :=
  let names := written.definitions
  let most := 2 * (names.length + 1) * (names.length + 1)
  written.toNode (WrittenNode.follow names most) ⟨true, [], none⟩

/-- The tree of the only document of a text, if there is a document. -/
def Node.ofText? (text : List Char) : Except Fault (Option Node) :=
  (WrittenNode.ofText? text).map fun written? => written?.map Node.ofWritten

end PatchCoverage.Yaml
