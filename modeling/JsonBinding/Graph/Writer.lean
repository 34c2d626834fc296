import JsonBinding.Graph.Basic
import JsonBinding.Json.Writer
/-!
The JSON text of a graph. A type is an object with one key, which tells its kind; fields stand in a
fixed order, the properties of a class and the cases of an enum in their own.
-/
namespace JsonBinding

open Json

def Property.written (p : Property) : List Char :=
  object [("json_key", quoted p.jsonKey), ("type", number p.type.toNat), ("optional", boolean p.optional)]

def ClassType.written (c : ClassType) : List Char :=
  object [("name", quoted c.name),
    ("properties", object (c.properties.entries.map fun (name, p) => (name, p.written)))]

def EnumType.written (e : EnumType) : List Char :=
  object [("name", quoted e.name),
    ("cases", object (e.cases.entries.map fun (name, value) => (name, quoted value)))]

def Node.written : Node → List Char
  | .primitive p => object [("primitive", quoted p.name)]
  | .array items => object [("array", object [("items", number items.toNat)])]
  | .map values => object [("map", object [("values", number values.toNat)])]
  | .classType c => object [("class", c.written)]
  | .enumType e => object [("enum", e.written)]
  | .union members =>
    object [("union", object [("members", Json.array (members.map fun id => number id.toNat))])]
  | .formatted f => object [("transformed-string", quoted f.name)]

def Graph.written (g : Graph) : List Char :=
  object [("types", Json.array (g.nodes.toList.map Node.written))]

def Node.toJson (node : Node) : String :=
  String.ofList node.written

def Graph.toJson (g : Graph) : String :=
  String.ofList g.written

end JsonBinding
