import JsonBinding.Graph.Inline
import JsonBinding.Import
import JsonBinding.Recorded
/-!
Type hints: their form, their text, and the hint of every type and property of a graph.
Writing a hint records the imports it needs, outer ones before inner ones. A reference to a
class or an enum is quoted unless its declaration is complete.
-/
namespace JsonBinding

inductive TypeHint
  | any | none | bool | int | float | str | datetime
  | list (item : TypeHint)
  /-- A dictionary; its keys are strings. -/
  | dict (value : TypeHint)
  | optional (inner : TypeHint)
  | union (members : List TypeHint)
  | reference (id : TypeId) (name : String) (quoted : Bool)

mutual

def TypeHint.text : TypeHint → String
  | any => "Any"
  | none => "None"
  | bool => "bool"
  | int => "int"
  | float => "float"
  | str => "str"
  | datetime => "datetime"
  | list item => "List[" ++ item.text ++ "]"
  | dict value => "Dict[str, " ++ value.text ++ "]"
  | optional inner => "Optional[" ++ inner.text ++ "]"
  | union members => "Union[" ++ ", ".intercalate (TypeHint.texts members) ++ "]"
  | reference _ name quoted => if quoted then "'" ++ name ++ "'" else name

def TypeHint.texts : List TypeHint → List String
  | [] => []
  | member :: rest => member.text :: TypeHint.texts rest

end

theorem TypeHint.texts_eq_map (members : List TypeHint) :
    TypeHint.texts members = members.map TypeHint.text := by
  induction members with
  | nil => rfl
  | cons member rest ih => simp [TypeHint.texts, ih]

def Primitive.hint : Primitive → Recorded Import TypeHint
  | .any => do
    Recorded.note .any
    return .any
  | .null => return .none
  | .bool => return .bool
  | .integer => return .int
  | .double => return .float
  | .string => return .str

mutual

/-- The hint of a type that is written out, at a place in the graph. -/
def Inline.hint (declared : TypeId → Bool) : Inline → Location → Recorded Import TypeHint
  | .primitive p, _ => p.hint
  | .array items, l => do
    Recorded.note .list
    return .list (← items.hint declared l.item)
  | .map values, l => do
    Recorded.note .dict
    return .dict (← values.hint declared l.value)
  | .classRef id name, _ => return .reference id name !declared id
  | .enumRef id name, _ => return .reference id name !declared id
  | .formatted .dateTime, _ => do
    Recorded.note .datetime
    return .datetime
  | .formatted f, l => Recorded.fail (.unsupportedFormat f l)
  | .single only, l => only.hint declared (l.member 0)
  | .nullable inner, l => do
    Recorded.note .optional
    return .optional (← inner.hint declared (l.member 1))
  | .union members, l => do
    Recorded.note .union
    return .union (← Inline.hintMembers declared members l 0)
  | .emptyUnion, l => Recorded.fail (.emptyUnion l)
  | .missing id, l => Recorded.fail (.unknownType id l)
  | .endless id, l => Recorded.fail (.endlessType id l)

/-- The hints of the members of a union, the first of which has the given index. -/
def Inline.hintMembers (declared : TypeId → Bool) :
    List Inline → Location → Nat → Recorded Import (List TypeHint)
  | [], _, _ => return []
  | member :: rest, l, index => do
    let first ← member.hint declared (l.member index)
    return first :: (← Inline.hintMembers declared rest l (index + 1))

end

theorem Inline.hintMembers_eq_mapM (declared : TypeId → Bool) (members : List Inline) (l : Location)
    (index : Nat) :
    Inline.hintMembers declared members l index =
      (members.zipIdx index).mapM fun (member, i) => member.hint declared (l.member i) := by
  induction members generalizing index with
  | nil => rfl
  | cons member rest ih => simp [Inline.hintMembers, ih]

namespace Graph

/-- The hint of a type; `declared` tells which declarations are complete. -/
def hint (g : Graph) (declared : TypeId → Bool) (id : TypeId) (l : Location) :
    Recorded Import TypeHint :=
  (g.inline id).hint declared l

/-- The hint of a property. One that may be missing is optional, unless its type accepts null
as it is. -/
def propertyHint (g : Graph) (declared : TypeId → Bool) (property : Property) (l : Location) :
    Recorded Import TypeHint :=
  if property.optional && !g.acceptsNull property.type then do
    Recorded.note .optional
    return .optional (← g.hint declared property.type l)
  else
    g.hint declared property.type l

end Graph

end JsonBinding
