import JsonBinding.Graph.Basic
import JsonBinding.Json.Record
/-!
Graphs read from JSON text. The text must be of the form in which graphs are written, up to white
space, the order of fields and the liberties that all records have; after that, every reference must
lead into the graph.
-/
namespace JsonBinding

open Json

def TypeId.read (text : List Char) : Except Json.Fault (TypeId × List Char) :=
  (readNatural32 text).map fun (n, rest) => (TypeId.ofNat n, rest)

namespace Primitive

def all : List Primitive :=
  [any, null, bool, integer, double, string]

def read : List Char → Except Json.Fault (Primitive × List Char) :=
  readVariant (all.map fun p => .unit p.name p)

end Primitive

namespace StringFormat

def all : List StringFormat :=
  [dateTime, date, time, uuid, uri, integerString, boolString]

def read : List Char → Except Json.Fault (StringFormat × List Char) :=
  readVariant (all.map fun f => .unit f.name f)

end StringFormat

def Json.FieldForm.of {α β : Type} (name : String) (isRequired : Bool)
    (value : List Char → Except Json.Fault (β × List Char)) (put : α → β → α) : FieldForm α where
  name
  isRequired
  read record text := (value text).map fun (v, rest) => (put record v, rest)

/-- The form of a record of one field, which stands for its value. -/
def Json.RecordForm.wrapping {α : Type} (name field : String) (blank : α)
    (value : List Char → Except Json.Fault (α × List Char)) : RecordForm α where
  name
  blank
  fields := [.of field true value fun _ v => v]

def Property.form : RecordForm Property where
  name := "struct Property"
  blank := ⟨"", ⟨0⟩, false⟩
  fields := [
    .of "json_key" true readString fun p key => { p with jsonKey := key },
    .of "type" true TypeId.read fun p type => { p with type },
    .of "optional" false readBoolean fun p optional => { p with optional }]

def ClassType.form : RecordForm ClassType where
  name := "struct ClassType"
  blank := ⟨"", .empty⟩
  fields := [
    .of "name" true readString fun c name => { c with name },
    .of "properties" false (readMap Property.form.read) fun c properties => { c with properties }]

def EnumType.form : RecordForm EnumType where
  name := "struct EnumType"
  blank := ⟨"", .empty⟩
  fields := [
    .of "name" true readString fun e name => { e with name },
    .of "cases" false (readMap readString) fun e cases => { e with cases }]

namespace Node

def forms : List (VariantForm Node) := [
  .withContent "primitive" "newtype variant" fun text =>
    (Primitive.read text).map fun (p, rest) => (.primitive p, rest),
  .withContent "array" "struct variant" fun text =>
    ((RecordForm.wrapping "struct variant Type::Array" "items" ⟨0⟩ TypeId.read).read text).map
      fun (items, rest) => (.array items, rest),
  .withContent "map" "struct variant" fun text =>
    ((RecordForm.wrapping "struct variant Type::Map" "values" ⟨0⟩ TypeId.read).read text).map
      fun (values, rest) => (.map values, rest),
  .withContent "class" "newtype variant" fun text =>
    (ClassType.form.read text).map fun (c, rest) => (.classType c, rest),
  .withContent "enum" "newtype variant" fun text =>
    (EnumType.form.read text).map fun (e, rest) => (.enumType e, rest),
  .withContent "union" "newtype variant" fun text =>
    ((RecordForm.wrapping "struct UnionType" "members" [] (readArray TypeId.read)).read text).map
      fun (members, rest) => (.union members, rest),
  .withContent "transformed-string" "newtype variant" fun text =>
    (StringFormat.read text).map fun (f, rest) => (.formatted f, rest)]

def read : List Char → Except Json.Fault (Node × List Char) :=
  readVariant forms

end Node

/-- The reason why a text gives no graph. -/
inductive LoadFault
  | text (fault : Json.Fault)
  | reference (dangling : DanglingReference)

def LoadFault.message? : LoadFault → Option String
  | text (.form fault) => some ("invalid type graph JSON: " ++ fault.message)
  | text _ => none
  | reference dangling => some dangling.message

namespace Graph

def form : RecordForm Graph :=
  .wrapping "struct TypeGraph" "types" .empty fun text =>
    (readArray Node.read text).map fun (nodes, rest) => (⟨nodes.toArray⟩, rest)

/-- Reads a graph whose references need not lead anywhere. -/
def parse (text : String) : Except Json.Fault Graph :=
  readWhole form.read text.toList

def load (text : String) : Except LoadFault Graph :=
  match parse text with
  | .error fault => .error (.text fault)
  | .ok g =>
    match g.danglingReference? with
    | some dangling => .error (.reference dangling)
    | none => .ok g

end Graph

end JsonBinding
