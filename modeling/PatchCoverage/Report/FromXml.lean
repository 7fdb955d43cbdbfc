import PatchCoverage.Change.Source
import PatchCoverage.Number.Literal
import PatchCoverage.Report.Basic
import PatchCoverage.World.Basic
import PatchCoverage.Xml.Document

namespace PatchCoverage

/-!
# Reports in XML

A report is a document whose outermost element is `report`.  Its packages are
all elements `package`, however deep; the classes of a package are the elements
`class` directly inside it.  The counters of a class are those directly inside
it or, if it has none, those directly inside its methods.  Everything else in
the document is of no concern.
-/

namespace Report

/-- The integer of an attribute; what is missing or no integer counts as
zero. -/
def integerAttribute (element : Xml.Element) (name : String) : Int :=
  match (element.attribute? name).map readInteger with
  | some (.ok value) => value
  | _ => 0

/-- The counter of an element. -/
def counterOf (element : Xml.Element) : Counter :=
  ⟨(element.attribute? "type").getD "", integerAttribute element "missed",
    integerAttribute element "covered"⟩

/-- The elements of the counters of a class. -/
def counterElements (element : Xml.Element) : List Xml.Element :=
  let direct := element.childrenNamed "counter"
  if direct.isEmpty then
    (element.childrenNamed "method").flatMap fun method => method.childrenNamed "counter"
  else direct

/-- The class of an element. -/
def classOf (element : Xml.Element) : ClassCoverage :=
  ⟨(element.attribute? "name").getD "", (element.attribute? "sourcefilename").getD "",
    (counterElements element).map counterOf⟩

/-- The package of an element. -/
def packageOf (element : Xml.Element) : PackageCoverage :=
  ⟨(element.attribute? "name").getD "", (element.childrenNamed "class").map classOf⟩

/-- The report of a document's outermost element. -/
def ofElement (root : Xml.Element) : Report :=
  ⟨(root.allNamed "package").map packageOf⟩

end Report

/-- Why there is no report. -/
inductive ReportError where
  /-- The file cannot be read. -/
  | unreadable (file : PathName) (problem : FileProblem)
  /-- The file is no document; `wording` is what its reader says of it. -/
  | notDocument (file : PathName) (fault : Xml.Fault) (wording : String)
  /-- The document is not a report. -/
  | notReport (rootName : String)
  deriving DecidableEq, Repr

/-- Text in quotes, or a word for none. -/
def quotedOrNone (text : Option String) : String :=
  (text.map quoted).getD "None"

/-- The wording of a document's fault that commands answer for, given what the reader
says of a document that breaks a rule of the notation. Faults without a wording end the
program. -/
def Xml.Fault.message? (wording : String) : Xml.Fault → Option String
  | malformed => some wording
  | entityDeclared name systemId publicId =>
    some ("EntitiesForbidden(name=" ++ quoted name ++ ", system_id=" ++ quotedOrNone systemId ++
      ", public_id=" ++ quotedOrNone publicId ++ ")")
  | unknownCharset => none
  | severalOctets => none
  | unreadableCharset _ => none

/-- The wording of an error that commands answer for. Errors without one end
the program. -/
def ReportError.message? : ReportError → Option String
  | unreadable _ .zeroCharacter => none
  | unreadable file problem =>
    some ("Cannot read JaCoCo report " ++ file.toText ++ ": " ++
      problem.describe (quoted file.toText))
  | notDocument file fault wording =>
    (fault.message? wording).map fun message =>
      "Failed to parse JaCoCo XML " ++ file.toText ++ ": " ++ message
  | notReport rootName => some ("JaCoCo XML root is not <report>: " ++ rootName)

/-- The report in the octets of a file; `wording` is what the reader says of octets that
break a rule of the notation. -/
def Report.ofOctets (file : PathName) (wording : String) (octets : List UInt8) :
    Except ReportError Report :=
  match Xml.Element.ofOctets octets with
  | .error fault => .error (.notDocument file fault wording)
  | .ok root =>
    if root.name = "report" then .ok (.ofElement root) else .error (.notReport root.name)

/-- The report in a file. -/
def World.readReport (world : World) (file : PathName) : Except ReportError Report :=
  match world.read file with
  | .error problem => .error (.unreadable file problem)
  | .ok octets => Report.ofOctets file (world.reportWording octets) octets

/-- The first of some names below a directory that is a file. -/
def World.firstFile? (world : World) (directory : PathName) :
    List String → Except FileProblem (Option PathName)
  | [] => .ok none
  | candidate :: candidates => do
    let name := directory.join (PathName.ofText candidate)
    if ← world.isFile name then pure (some name)
    else world.firstFile? directory candidates

/-- Where the report of a module is, among the places where build tools leave
it. -/
def World.detectReport (world : World) (directory : PathName) :
    Except FileProblem (Option PathName) :=
  world.firstFile? directory Report.standardLocations

end PatchCoverage
