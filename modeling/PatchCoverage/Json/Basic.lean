import PatchCoverage.Number.Binary64

namespace PatchCoverage

/-!
# JSON documents

The type of a document, with integers kept apart from other numbers and the
fields of an object kept in order.  `Json/Printer` writes documents and
`Json/Reader` reads them.
-/

/-- A JSON document. -/
inductive Json where
  /-- The missing value. -/
  | null
  /-- A truth value. -/
  | bool (value : Bool)
  /-- A number written without point and exponent. -/
  | integer (value : Int)
  /-- Any other number. -/
  | number (value : Binary64)
  /-- A text. -/
  | string (value : String)
  /-- An ordered list. -/
  | array (items : List Json)
  /-- Named fields in order. -/
  | object (fields : List (String × Json))

namespace Json

/-- The last field of the given name. -/
def field? (name : String) : Json → Option Json
  | object fields => (fields.reverse.find? fun field => field.1 == name).map (·.2)
  | _ => none

end Json

end PatchCoverage
