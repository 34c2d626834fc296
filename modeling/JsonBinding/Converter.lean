import JsonBinding.Combinator
import JsonBinding.Graph.Inline
import JsonBinding.Recorded
/-!
Converters between JSON values and values of the written module: their form, their text, and the
converter of every type and property of a graph in either direction. Building a converter records
the support functions it uses. A union tries its members in the order in which they are written.
-/
namespace JsonBinding

inductive Direction
  | fromJson
  | toJson
  deriving DecidableEq, Repr

inductive Converter
  /-- Leaves every value as it is. -/
  | identity
  | function (c : Combinator)
  /-- A support function that applies another converter to what it finds inside. -/
  | nested (c : Combinator) (inner : Converter)
  /-- The first member that accepts the value. -/
  | union (members : List Converter)
  /-- The reader that comes with a class. -/
  | classFromDict (name : String)
  /-- The look-up of an enum by the value of its case. -/
  | enumValue (name : String)
  /-- A support function that is told the name of a type. -/
  | typed (c : Combinator) (name : String)

namespace Converter

/-- The variable of a function that has no name of its own. -/
def argument : String :=
  "x"

/-- A converter as a function of one argument, given its text for the variable `argument`. Functions
that have a name of their own go by it. -/
def callableFrom (applied : String) : Converter → String
  | function c => c.name
  | classFromDict name => name ++ ".from_dict"
  | enumValue name => name
  | identity | nested _ _ | union _ | typed _ _ => "lambda " ++ argument ++ ": " ++ applied

mutual

def apply : Converter → String → String
  | identity, value => value
  | function c, value => c.name ++ "(" ++ value ++ ")"
  | nested c inner, value =>
    c.name ++ "(" ++ callableFrom (apply inner argument) inner ++ ", " ++ value ++ ")"
  | union members, value =>
    Combinator.fromUnion.name ++ "([" ++ ", ".intercalate (callables members) ++ "], " ++ value ++
      ")"
  | classFromDict name, value => name ++ ".from_dict(" ++ value ++ ")"
  | enumValue name, value => name ++ "(" ++ value ++ ")"
  | typed c name, value => c.name ++ "(" ++ name ++ ", " ++ value ++ ")"

def callables : List Converter → List String
  | [] => []
  | member :: rest => callableFrom (apply member argument) member :: callables rest

end

def callable (c : Converter) : String :=
  c.callableFrom (c.apply argument)

theorem callables_eq_map (members : List Converter) : callables members = members.map callable := by
  induction members with
  | nil => rfl
  | cons member rest ih => simp [callables, callable, ih]

end Converter

namespace Recorded

def function (c : Combinator) : Recorded Combinator Converter := do
  note c
  return .function c

def nested (c : Combinator) (inner : Converter) : Recorded Combinator Converter := do
  note c
  return .nested c inner

def typed (c : Combinator) (name : String) : Recorded Combinator Converter := do
  note c
  return .typed c name

end Recorded

/-- The converter of a primitive, which is the same in both directions. -/
def Primitive.convert : Primitive → Recorded Combinator Converter
  | .any => return .identity
  | .null => Recorded.function .fromNone
  | .bool => Recorded.function .fromBool
  | .integer => Recorded.function .fromInt
  | .double => Recorded.function .fromFloat
  | .string => Recorded.function .fromStr

mutual

def Inline.convert (d : Direction) : Inline → Location → Recorded Combinator Converter
  | .primitive p, _ => p.convert
  | .array items, l => do
    Recorded.nested .fromList (← items.convert d l.item)
  | .map values, l => do
    Recorded.nested .fromDict (← values.convert d l.value)
  | .classRef _ name, _ =>
    match d with
    | .fromJson => return .classFromDict name
    | .toJson => Recorded.typed .toClass name
  | .enumRef _ name, _ =>
    match d with
    | .fromJson => return .enumValue name
    | .toJson => Recorded.typed .toEnum name
  | .formatted .dateTime, _ =>
    match d with
    | .fromJson => Recorded.function .fromDatetime
    | .toJson => Recorded.function .toDatetime
  | .formatted f, l => Recorded.fail (.unsupportedFormat f l)
  | .single only, l => only.convert d (l.member 0)
  | .nullable inner, l => do
    Recorded.nested .fromOptional (← inner.convert d (l.member 1))
  | .union members, l => do
    Recorded.note .fromUnion
    return .union (← Inline.convertMembers d members l 0)
  | .emptyUnion, l => Recorded.fail (.emptyUnion l)
  | .missing id, l => Recorded.fail (.unknownType id l)
  | .endless id, l => Recorded.fail (.endlessType id l)

/-- The converters of the members of a union, the first of which has the given index. -/
def Inline.convertMembers (d : Direction) :
    List Inline → Location → Nat → Recorded Combinator (List Converter)
  | [], _, _ => return []
  | member :: rest, l, index => do
    let first ← member.convert d (l.member index)
    return first :: (← Inline.convertMembers d rest l (index + 1))

end

theorem Inline.convertMembers_eq_mapM (d : Direction) (members : List Inline) (l : Location)
    (index : Nat) :
    Inline.convertMembers d members l index =
      (members.zipIdx index).mapM fun (member, i) => member.convert d (l.member i) := by
  induction members generalizing index with
  | nil => rfl
  | cons member rest ih => simp [Inline.convertMembers, ih]

namespace Graph

def converter (g : Graph) (d : Direction) (id : TypeId) (l : Location) :
    Recorded Combinator Converter :=
  (g.inline id).convert d l

/-- The converter of a property. One that may be missing lets null pass, unless its type accepts
null as it is. -/
def propertyConverter (g : Graph) (d : Direction) (property : Property) (l : Location) :
    Recorded Combinator Converter := do
  let inner ← g.converter d property.type l
  if property.optional && !g.acceptsNull property.type then
    Recorded.nested .fromOptional inner
  else
    return inner

end Graph

end JsonBinding
