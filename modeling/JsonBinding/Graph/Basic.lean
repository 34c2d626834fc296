import JsonBinding.OrderedMap
/-!
A graph of JSON types. Types stand in a row and point at each other by number, so types that refer
to themselves or to one another need no form of their own. Classes and enums carry the names under
which they are declared; all other types are written out where they are used.
-/
namespace JsonBinding

/-- The number of a type in its graph. Two types are the same iff their numbers are. -/
structure TypeId where
  index : UInt32
  deriving DecidableEq, Repr, Inhabited

namespace TypeId

/-- The id of the `n`-th type; ids have 32 bits and start again at zero beyond them. -/
def ofNat (n : Nat) : TypeId :=
  ⟨UInt32.ofNat n⟩

def toNat (id : TypeId) : Nat :=
  id.index.toNat

def text (id : TypeId) : String :=
  s!"#{id.toNat}"

theorem toNat_ofNat {n : Nat} (h : n < UInt32.size) : (ofNat n).toNat = n :=
  UInt32.toNat_ofNat_of_lt h

theorem toNat_injective {a b : TypeId} (h : a.toNat = b.toNat) : a = b := by
  cases a
  cases b
  exact congrArg _ (UInt32.toNat_inj.mp h)

end TypeId

/-- The scalar shapes of JSON; `any` stands for every value. -/
inductive Primitive
  | any | null | bool | integer | double | string
  deriving DecidableEq, Repr

def Primitive.name : Primitive → String
  | any => "any"
  | null => "null"
  | bool => "bool"
  | integer => "integer"
  | double => "double"
  | string => "string"

/-- What the content of a string was recognised as. -/
inductive StringFormat
  | dateTime | date | time | uuid | uri | integerString | boolString
  deriving DecidableEq, Repr

def StringFormat.name : StringFormat → String
  | dateTime => "date-time"
  | date => "date"
  | time => "time"
  | uuid => "uuid"
  | uri => "uri"
  | integerString => "integer-string"
  | boolString => "bool-string"

structure Property where
  /-- The key in the JSON object. -/
  jsonKey : String
  type : TypeId
  /-- Whether the key may be missing from the object. -/
  optional : Bool
  deriving DecidableEq, Repr

structure ClassType where
  name : String
  properties : OrderedMap String Property
  deriving DecidableEq, Repr

structure EnumType where
  name : String
  cases : OrderedMap String String
  deriving DecidableEq, Repr

inductive Node
  | primitive (p : Primitive)
  | array (items : TypeId)
  /-- An object used as a dictionary; its keys are any strings. -/
  | map (values : TypeId)
  | classType (c : ClassType)
  | enumType (e : EnumType)
  | union (members : List TypeId)
  /-- A string whose content has a meaning of its own. -/
  | formatted (f : StringFormat)
  deriving DecidableEq, Repr

inductive Kind
  | primitive (p : Primitive)
  | array
  | map
  | classType
  | enumType
  | union
  | formatted (f : StringFormat)
  deriving DecidableEq, Repr

def Kind.text : Kind → String
  | primitive p => p.name
  | array => "array"
  | map => "map"
  | classType => "class"
  | enumType => "enum"
  | union => "union"
  | formatted f => "transformed string `" ++ f.name ++ "`"

namespace Node

def kind : Node → Kind
  | primitive p => .primitive p
  | array _ => .array
  | map _ => .map
  | classType _ => .classType
  | enumType _ => .enumType
  | union _ => .union
  | formatted f => .formatted f

def declaredName? : Node → Option String
  | classType c => some c.name
  | enumType e => some e.name
  | _ => none

/-- The types that a type points at, in the order in which it mentions them. -/
def references : Node → List TypeId
  | primitive _ | enumType _ | formatted _ => []
  | array items => [items]
  | map values => [values]
  | classType c => c.properties.values.map (·.type)
  | union members => members

end Node

/-- A graph of types; the id of a type is its place in the row. -/
structure Graph where
  nodes : Array Node
  deriving DecidableEq, Repr

structure DanglingReference where
  id : TypeId
  target : TypeId
  deriving DecidableEq, Repr

def DanglingReference.message (d : DanglingReference) : String :=
  s!"type {d.id.text} references missing type {d.target.text}"

namespace Graph

def empty : Graph :=
  ⟨#[]⟩

def size (g : Graph) : Nat :=
  g.nodes.size

def get? (g : Graph) (id : TypeId) : Option Node :=
  g.nodes[id.toNat]?

def add (g : Graph) (node : Node) : Graph × TypeId :=
  (⟨g.nodes.push node⟩, TypeId.ofNat g.size)

def toList (g : Graph) : List (TypeId × Node) :=
  g.nodes.toList.zipIdx.map fun (node, i) => (TypeId.ofNat i, node)

/-- Writes a property of the class with a given id; `none` if there is no such class. -/
def insertProperty? (g : Graph) (id : TypeId) (name : String) (property : Property) :
    Option Graph :=
  match g.get? id with
  | some (.classType c) =>
    some ⟨g.nodes.setIfInBounds id.toNat
      (.classType { c with properties := c.properties.insert name property })⟩
  | _ => none

/-- The first reference of a type that leads outside the graph. -/
def danglingTarget? (g : Graph) (node : Node) : Option TypeId :=
  node.references.find? fun target => (g.get? target).isNone

/-- The first dangling reference of the graph, types in order and references in order. -/
def danglingReference? (g : Graph) : Option DanglingReference :=
  g.toList.findSome? fun (id, node) => (g.danglingTarget? node).map fun target => ⟨id, target⟩

def isNull (g : Graph) (id : TypeId) : Bool :=
  g.get? id == some (.primitive .null)

/-- The other member of a union of null and one more type. -/
def nullableInner? (g : Graph) (id : TypeId) : Option TypeId :=
  match g.get? id with
  | some (.union [a, b]) =>
    match g.isNull a, g.isNull b with
    | true, false => some b
    | false, true => some a
    | _, _ => none
  | _ => none

/-- Whether null stands among the alternatives that the type itself names. -/
def acceptsNull (g : Graph) (id : TypeId) : Bool :=
  match g.get? id with
  | some (.primitive .null) | some (.primitive .any) => true
  | some (.union members) => members.any g.isNull
  | _ => false

@[simp] theorem get?_empty (id : TypeId) : empty.get? id = none := by
  simp [empty, get?]

theorem get?_eq_none_iff (g : Graph) (id : TypeId) : g.get? id = none ↔ g.size ≤ id.toNat := by
  simp [get?, size]

theorem get?_add_self {g : Graph} (node : Node) (h : g.size < UInt32.size) :
    (g.add node).1.get? (g.add node).2 = some node := by
  have place : (TypeId.ofNat g.nodes.size).toNat = g.nodes.size := TypeId.toNat_ofNat h
  simp [add, get?, size, place]

end Graph

end JsonBinding
