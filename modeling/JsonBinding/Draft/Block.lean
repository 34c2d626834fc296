import JsonBinding.Converter
import JsonBinding.Source.Comment
import JsonBinding.Source.Literal
import JsonBinding.TypeHint
/-!
The parts of a module that its types give rise to: the blocks that declare classes and enums, and
the helpers of entry points. A part is kept as data and written out as lines at the very end. All
methods of a class go through one list of members, so that its constructor, its reader and its
writer agree on the fields and their order.
-/
namespace JsonBinding

open Source Text

structure Field where
  name : String
  jsonKey : String
  hint : TypeHint
  description : Option String

structure Member where
  field : Field
  decoder : Converter
  encoder : Converter

inductive ClassBody
  | fields (fields : List Field)
  /-- Fields, and methods that read and write them. -/
  | members (members : List Member)

def ClassBody.fieldList : ClassBody → List Field
  | .fields list => list
  | .members list => list.map (·.field)

structure ClassBlock where
  id : TypeId
  name : String
  description : Option String
  /-- Whether a decorator provides the constructor. -/
  isDataclass : Bool
  body : ClassBody

structure EnumBlock where
  id : TypeId
  name : String
  description : Option String
  /-- The names of the cases with their literals. -/
  cases : List (String × String)

namespace Field

/-- The lines of a field: its description, then its name and hint. -/
def lines (field : Field) : List String :=
  (field.description.map commentLines).getD [] ++ [field.name ++ ": " ++ field.hint.text]

def parameter (field : Field) : String :=
  ", " ++ field.name ++ ": " ++ field.hint.text

def assignment (field : Field) : String :=
  "self." ++ field.name ++ " = " ++ field.name

end Field

namespace Member

def readLine (member : Member) : String :=
  member.field.name ++ " = " ++
    member.decoder.apply ("obj.get(" ++ literal member.field.jsonKey ++ ")")

def writeLine (member : Member) : String :=
  "result[" ++ literal member.field.jsonKey ++ "] = " ++
    member.encoder.apply ("self." ++ member.field.name)

end Member

namespace ClassBlock

def constructorLines (fields : List Field) : List String :=
  ("def __init__(self" ++ String.join (fields.map Field.parameter) ++ ") -> None:") ::
    (if fields.isEmpty then ["pass"] else fields.map Field.assignment).map indent

def readerLines (name : String) (members : List Member) : List String :=
  "@staticmethod" ::
    ("def from_dict(obj: Any) -> '" ++ name ++ "':") ::
    ("assert isinstance(obj, dict)" ::
      members.map Member.readLine ++
      ["return " ++ name ++ "(" ++ ", ".intercalate (members.map (·.field.name)) ++ ")"]).map indent

def writerLines (members : List Member) : List String :=
  "def to_dict(self) -> dict:" ::
    ("result: dict = \x7b\x7d" :: members.map Member.writeLine ++ ["return result"]).map indent

def methods (block : ClassBlock) : List (List String) :=
  match block.body with
  | .fields _ => []
  | .members members =>
    (if block.isDataclass then [] else [constructorLines (members.map (·.field))]) ++
      [readerLines block.name members, writerLines members]

def headLines (block : ClassBlock) : List String :=
  (if block.isDataclass then ["@dataclass"] else []) ++
    ("class " ++ block.name ++ ":") :: docstringLines block.description ++
    (match block.body.fieldList with
      | [] => [indent "pass"]
      | fields => (fields.flatMap Field.lines).map indent)

/-- The lines of a class; a blank line stands in front of every method. -/
def lines (block : ClassBlock) : List String :=
  block.headLines ++ block.methods.flatMap fun method => "" :: method.map indent

end ClassBlock

namespace EnumBlock

def caseLine (entry : String × String) : String :=
  entry.1 ++ " = " ++ literal entry.2

def lines (block : EnumBlock) : List String :=
  ("class " ++ block.name ++ "(Enum):") :: docstringLines block.description ++
    (if block.cases.isEmpty then ["pass"] else block.cases.map caseLine).map indent

end EnumBlock

inductive Block
  | classBlock (block : ClassBlock)
  | enumBlock (block : EnumBlock)

namespace Block

def id : Block → TypeId
  | .classBlock block => block.id
  | .enumBlock block => block.id

def lines : Block → List String
  | .classBlock block => block.lines
  | .enumBlock block => block.lines

def text (block : Block) : String :=
  unlines block.lines

end Block

/-- An entry point of a module: a type that is read from JSON and written to it as a whole. -/
structure EntryPoint where
  /-- What the names of both helpers start with. -/
  function : String
  hint : TypeHint
  decoder : Converter
  encoder : Converter

namespace EntryPoint

def readerArgument : String :=
  "s"

def writerArgument : String :=
  "x"

def readerLines (entry : EntryPoint) : List String := [
  "def " ++ entry.function ++ "_from_dict(" ++ readerArgument ++ ": Any) -> " ++ entry.hint.text ++
    ":",
  indent ("return " ++ entry.decoder.apply readerArgument)]

def writerLines (entry : EntryPoint) : List String := [
  "def " ++ entry.function ++ "_to_dict(" ++ writerArgument ++ ": " ++ entry.hint.text ++
    ") -> Any:",
  indent ("return " ++ entry.encoder.apply writerArgument)]

def helpers (entry : EntryPoint) : List String :=
  [unlines entry.readerLines, unlines entry.writerLines]

theorem unlines_returning (head value : String) :
    unlines [head, indent ("return " ++ value)] = head ++ "\n    return " ++ value := by
  have written : "return " ++ value ≠ "" := by simp
  have body : indent ("return " ++ value) = "    return " ++ value := by
    rw [indent, if_neg written, ← String.append_assoc]
    rfl
  have behind : "\n" ++ ("    return " ++ value) = "\n    return " ++ value := by
    rw [← String.append_assoc]
    rfl
  rw [unlines, String.intercalate_cons_cons, String.intercalate_singleton, body,
    String.append_assoc, behind, String.append_assoc]

theorem helpers_eq (entry : EntryPoint) :
    entry.helpers = [
      "def " ++ entry.function ++ "_from_dict(s: Any) -> " ++ entry.hint.text ++ ":\n    return " ++
        entry.decoder.apply "s",
      "def " ++ entry.function ++ "_to_dict(x: " ++ entry.hint.text ++ ") -> Any:\n    return " ++
        entry.encoder.apply "x"] := by
  rw [helpers, readerLines, writerLines, unlines_returning, unlines_returning]
  simp only [String.append_assoc]
  rfl

def usageLine (entry : EntryPoint) : String :=
  "#     result = " ++ entry.function ++ "_from_dict(json.loads(json_string))"

end EntryPoint

end JsonBinding
