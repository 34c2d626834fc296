import JsonBinding.Proofs.Inline.Formed
import JsonBinding.Proofs.Text.Carriage
/-!
Carriage returns in hints and converters. What these write of their own has none, so they have none
if the names of classes and enums have none (`hintTree`, `converterTree`). A converter is followed
through what it is applied to, and through its text as a function, since both get into each other
(`Converter.AddsNoCarriage`).
-/
namespace JsonBinding

open Text

def Node.names : Node → List String
  | .classType c => c.name :: c.properties.keys
  | .enumType e => e.name :: e.cases.keys
  | _ => []

/-- No name in the graph has a carriage return. -/
def Graph.NamesCarriageFree (g : Graph) : Prop :=
  ∀ node ∈ g.nodes, ∀ name ∈ node.names, CarriageFree name

instance (g : Graph) : Decidable g.NamesCarriageFree :=
  inferInstanceAs (Decidable (∀ node ∈ g.nodes, ∀ name ∈ node.names, CarriageFree name))

/-- A converter that adds no carriage return to what it is applied to. -/
structure Converter.AddsNoCarriage (c : Converter) : Prop where
  callable : CarriageFree c.callable
  apply : ∀ value, CarriageFree value → CarriageFree (c.apply value)

namespace Graph

variable {g : Graph}

theorem NamesCarriageFree.of_get? (free : g.NamesCarriageFree) {id : TypeId} {node : Node}
    (found : g.get? id = some node) : ∀ name ∈ node.names, CarriageFree name :=
  free node (Array.mem_of_getElem? found)

theorem NamesCarriageFree.of_declaredName? (free : g.NamesCarriageFree) {id : TypeId} {node : Node}
    (found : g.get? id = some node) {name : String} (named : node.declaredName? = some name) :
    CarriageFree name := by
  apply free.of_get? found
  cases node with
  | classType c | enumType e =>
    cases named
    exact List.mem_cons_self
  | _ => cases named

theorem NamesCarriageFree.class (free : g.NamesCarriageFree) {id : TypeId} {c : ClassType}
    (found : g.get? id = some (.classType c)) :
    CarriageFree c.name ∧ ∀ name ∈ c.properties.keys, CarriageFree name :=
  List.forall_mem_cons.mp (free.of_get? found)

theorem NamesCarriageFree.enum (free : g.NamesCarriageFree) {id : TypeId} {e : EnumType}
    (found : g.get? id = some (.enumType e)) :
    CarriageFree e.name ∧ ∀ name ∈ e.cases.keys, CarriageFree name :=
  List.forall_mem_cons.mp (free.of_get? found)

end Graph

section Hints

theorem Primitive.carriageFree_hintTree (p : Primitive) : CarriageFree p.hintTree.text := by
  cases p <;> decide

theorem TypeHint.carriageFree_union {members : List TypeHint}
    (each : ∀ member ∈ members, CarriageFree member.text) :
    CarriageFree (TypeHint.union members).text := by
  have listed : CarriageFree (", ".intercalate (TypeHint.texts members)) := by
    rw [texts_eq_map, carriageFree_intercalate (by decide), List.forall_mem_map]
    exact each
  exact listed.between (by decide) (by decide)

theorem TypeHint.carriageFree_reference {name : String} (free : CarriageFree name) (id : TypeId)
    (quoted : Bool) : CarriageFree (TypeHint.reference id name quoted).text := by
  cases quoted with
  | false => exact free
  | true => exact free.between (by decide) (by decide)

theorem Graph.NamesCarriageFree.hintTree {g : Graph} (free : g.NamesCarriageFree)
    (declared : TypeId → Bool) (id : TypeId) :
    CarriageFree ((g.inline id).hintTree declared).text := by
  have any : CarriageFree TypeHint.any.text := by decide
  have datetime : CarriageFree TypeHint.datetime.text := by decide
  apply g.expand_induction (motive := fun t => CarriageFree (t.hintTree declared).text)
  case primitive => exact Primitive.carriageFree_hintTree
  case array | map | nullable => exact fun _ ih => ih.between (by decide) (by decide)
  case classRef =>
    exact fun id c found => TypeHint.carriageFree_reference (free.class found).1 id _
  case enumRef =>
    exact fun id e found => TypeHint.carriageFree_reference (free.enum found).1 id _
  case formatted =>
    intro f
    cases f with
    | dateTime => exact datetime
    | date | time | uuid | uri | integerString | boolString => exact any
  case single => exact fun _ ih => ih
  case union =>
    intro members ih
    rw [Inline.hintTree, Inline.hintTrees_eq_map]
    exact TypeHint.carriageFree_union (List.forall_mem_map.mpr ih)
  case emptyUnion => exact any
  case missing | endless => exact fun _ => any

theorem Graph.NamesCarriageFree.propertyHintTree {g : Graph} (free : g.NamesCarriageFree)
    (declared : TypeId → Bool) (property : Property) :
    CarriageFree (g.propertyHintTree declared property).text := by
  have plain := free.hintTree declared property.type
  unfold Graph.propertyHintTree
  cases g.wraps property with
  | false => exact plain
  | true => exact plain.between (by decide) (by decide)

end Hints

section Converters

theorem Combinator.carriageFree_name (c : Combinator) : CarriageFree c.name := by
  cases c <;> decide

namespace Converter.AddsNoCarriage

theorem of_lambda {c : Converter}
    (anonymous : c.callable = "lambda " ++ argument ++ ": " ++ c.apply argument)
    (apply : ∀ value, CarriageFree value → CarriageFree (c.apply value)) : c.AddsNoCarriage where
  callable := by
    rw [anonymous]
    exact CarriageFree.append (by decide) (apply argument (by decide))
  apply := apply

theorem identity : Converter.identity.AddsNoCarriage :=
  of_lambda rfl fun _ free => free

theorem function (c : Combinator) : (Converter.function c).AddsNoCarriage where
  callable := c.carriageFree_name
  apply _ free := free.between (c.carriageFree_name.append (by decide)) (by decide)

theorem nested (c : Combinator) {inner : Converter} (h : inner.AddsNoCarriage) :
    (Converter.nested c inner).AddsNoCarriage := by
  refine of_lambda rfl fun value free => free.between ?_ (by decide)
  exact h.callable.between (c.carriageFree_name.append (by decide)) (by decide)

theorem union {members : List Converter} (each : ∀ member ∈ members, member.AddsNoCarriage) :
    (Converter.union members).AddsNoCarriage := by
  refine of_lambda rfl fun value free => free.between ?_ (by decide)
  have listed : CarriageFree (", ".intercalate (callables members)) := by
    rw [callables_eq_map, carriageFree_intercalate (by decide), List.forall_mem_map]
    exact fun member among => (each member among).callable
  exact listed.between (by decide) (by decide)

theorem classFromDict {name : String} (named : CarriageFree name) :
    (Converter.classFromDict name).AddsNoCarriage where
  callable := named.append (by decide)
  apply _ free := free.between (named.append (by decide)) (by decide)

theorem enumValue {name : String} (named : CarriageFree name) :
    (Converter.enumValue name).AddsNoCarriage where
  callable := named
  apply _ free := free.between (named.append (by decide)) (by decide)

theorem typed (c : Combinator) {name : String} (named : CarriageFree name) :
    (Converter.typed c name).AddsNoCarriage := by
  refine of_lambda rfl fun value free => free.between ?_ (by decide)
  exact named.between (c.carriageFree_name.append (by decide)) (by decide)

end Converter.AddsNoCarriage

theorem Converter.Formed.addsNoCarriage {g : Graph} (free : g.NamesCarriageFree) {c : Converter}
    (formed : c.Formed g) : c.AddsNoCarriage := by
  induction formed with
  | identity => exact .identity
  | function _ => exact .function _
  | nested _ _ ih => exact ih.nested _
  | union _ ih => exact .union ih
  | classFromDict found named => exact .classFromDict (free.of_declaredName? found named)
  | enumValue found named => exact .enumValue (free.of_declaredName? found named)
  | typed _ found named => exact .typed _ (free.of_declaredName? found named)

theorem Graph.NamesCarriageFree.converterTree {g : Graph} (free : g.NamesCarriageFree)
    (d : Direction) (id : TypeId) : ((g.inline id).converterTree d).AddsNoCarriage :=
  (g.formed_converterTree d id).addsNoCarriage free

theorem Graph.NamesCarriageFree.propertyConverterTree {g : Graph} (free : g.NamesCarriageFree)
    (d : Direction) (property : Property) :
    (g.propertyConverterTree d property).AddsNoCarriage :=
  (g.formed_propertyConverterTree d property).addsNoCarriage free

end Converters

end JsonBinding
