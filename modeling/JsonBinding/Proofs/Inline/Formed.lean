import JsonBinding.Proofs.Inline.Outcome
/-!
What the converters of a graph are put together from. Every support function has a role and is used
in no other; all names are those of classes and enums of the graph (`Converter.Formed`). The
converters of all types and properties are so, in either direction (`formed_converterTree`,
`formed_propertyConverterTree`), and what holds of them is shown for one form after another.
-/
namespace JsonBinding

namespace Combinator

/-- What a support function is used for. -/
inductive Role
  /-- It looks at the value alone. -/
  | check
  /-- It applies one other converter. -/
  | wrapper
  /-- It tries several other converters. -/
  | choice
  /-- It is told the name of a type. -/
  | naming

def role : Combinator → Role
  | fromNone | fromBool | fromInt | fromFloat | fromStr | fromDatetime | toDatetime => .check
  | fromList | fromDict | fromOptional => .wrapper
  | fromUnion => .choice
  | toEnum | toClass => .naming

end Combinator

/-- Every support function is used for what it is there for, and all names are declared in the
graph. -/
inductive Converter.Formed (g : Graph) : Converter → Prop
  | identity : Formed g .identity
  | function {c : Combinator} : c.role = .check → Formed g (.function c)
  | nested {c : Combinator} {inner : Converter} : c.role = .wrapper → Formed g inner →
      Formed g (.nested c inner)
  | union {members : List Converter} : (∀ member ∈ members, Formed g member) →
      Formed g (.union members)
  | classFromDict {id : TypeId} {node : Node} {name : String} : g.get? id = some node →
      node.declaredName? = some name → Formed g (.classFromDict name)
  | enumValue {id : TypeId} {node : Node} {name : String} : g.get? id = some node →
      node.declaredName? = some name → Formed g (.enumValue name)
  | typed {c : Combinator} {id : TypeId} {node : Node} {name : String} : c.role = .naming →
      g.get? id = some node → node.declaredName? = some name → Formed g (.typed c name)

theorem Primitive.formed_converterTree (g : Graph) (p : Primitive) : p.converterTree.Formed g := by
  cases p with
  | any => exact .identity
  | null | bool | integer | double | string => exact .function rfl

namespace Graph

theorem formed_converterTree (g : Graph) (d : Direction) (id : TypeId) :
    ((g.inline id).converterTree d).Formed g := by
  apply g.expand_induction (motive := fun t => (t.converterTree d).Formed g)
  case primitive => exact Primitive.formed_converterTree g
  case array | map | nullable => exact fun _ ih => .nested rfl ih
  case classRef =>
    intro id c found
    cases d with
    | fromJson => exact .classFromDict found rfl
    | toJson => exact .typed rfl found rfl
  case enumRef =>
    intro id e found
    cases d with
    | fromJson => exact .enumValue found rfl
    | toJson => exact .typed rfl found rfl
  case formatted =>
    intro f
    cases f with
    | dateTime => cases d <;> exact .function rfl
    | date | time | uuid | uri | integerString | boolString => exact .identity
  case single => exact fun _ ih => ih
  case union =>
    intro members ih
    rw [Inline.converterTree, Inline.converterTrees_eq_map]
    exact .union (List.forall_mem_map.mpr ih)
  case emptyUnion => exact .identity
  case missing | endless => exact fun _ => .identity

theorem formed_propertyConverterTree (g : Graph) (d : Direction) (property : Property) :
    (g.propertyConverterTree d property).Formed g := by
  have plain := g.formed_converterTree d property.type
  unfold propertyConverterTree
  cases g.wraps property with
  | false => exact plain
  | true => exact .nested rfl plain

end Graph

end JsonBinding
