import JsonBinding.Graph.Member
/-!
The part of a type that is written out where the type is used. Arrays, dictionaries and unions are
spelled out down to their scalars; classes and enums end the walk, since they are referred to by
name. Whatever a type cannot be written for stays in the tree as a leaf.
-/
namespace JsonBinding

inductive Inline
  | primitive (p : Primitive)
  | array (items : Inline)
  | map (values : Inline)
  | classRef (id : TypeId) (name : String)
  | enumRef (id : TypeId) (name : String)
  | formatted (f : StringFormat)
  /-- A union of one member. -/
  | single (only : Inline)
  /-- A union of null and one other member. -/
  | nullable (inner : Inline)
  /-- Any other union that has members; they stand in the order in which they are written. -/
  | union (members : List Inline)
  | emptyUnion
  /-- A reference that leads outside the graph. -/
  | missing (id : TypeId)
  /-- A type whose walk comes back to it without end. -/
  | endless (id : TypeId)

namespace Graph

/-- Writes a type out to a given depth. -/
def expand (g : Graph) : Nat → TypeId → Inline
  | 0, id => .endless id
  | depth + 1, id =>
    match g.get? id with
    | none => .missing id
    | some (.primitive p) => .primitive p
    | some (.array items) => .array (g.expand depth items)
    | some (.map values) => .map (g.expand depth values)
    | some (.classType c) => .classRef id c.name
    | some (.enumType e) => .enumRef id e.name
    | some (.formatted f) => .formatted f
    | some (.union members) =>
      match g.unionShape members with
      | .empty => .emptyUnion
      | .single only => .single (g.expand depth only)
      | .nullable inner => .nullable (g.expand depth inner)
      | .general members => .union (members.map (g.expand depth))

/-- Writes a type out. A walk that meets no type twice takes at most one step for each type of the
graph and one for a reference that leads outside. -/
def inline (g : Graph) (id : TypeId) : Inline :=
  g.expand (g.size + 1) id

theorem inline_of_missing {g : Graph} {id : TypeId} (h : g.get? id = none) :
    g.inline id = .missing id := by
  simp [inline, expand, h]

end Graph

end JsonBinding
