import JsonBinding.Proofs.Inline.Outcome
/-!
Which types can be written, said on the graph alone: a type that resolves and is neither a string of
an unknown format nor a union without members, and whose parts can be written (`Graph.Renderable`).
Without inline cycles these are the types whose walk comes to its end without a fault
(`renderable_iff_writable`). Where all references resolve, no walk from a type of the graph stops at
an unknown type (`fault?_ne_unknownType`).
-/
namespace JsonBinding

namespace Graph

/-- A type that can be written, with all that is written out inside it. -/
inductive Renderable (g : Graph) : TypeId → Prop
  | primitive {id : TypeId} {p : Primitive} : g.get? id = some (.primitive p) → Renderable g id
  | classType {id : TypeId} {c : ClassType} : g.get? id = some (.classType c) → Renderable g id
  | enumType {id : TypeId} {e : EnumType} : g.get? id = some (.enumType e) → Renderable g id
  | dateTime {id : TypeId} : g.get? id = some (.formatted .dateTime) → Renderable g id
  | array {id items : TypeId} : g.get? id = some (.array items) → Renderable g items →
      Renderable g id
  | map {id values : TypeId} : g.get? id = some (.map values) → Renderable g values →
      Renderable g id
  | union {id : TypeId} {members : List TypeId} : g.get? id = some (.union members) →
      members ≠ [] → (∀ member ∈ members, Renderable g member) → Renderable g id

theorem get?_of_isNull {g : Graph} {id : TypeId} (null : g.isNull id = true) :
    g.get? id = some (.primitive .null) :=
  eq_of_beq null

theorem writable_layer_union {g : Graph} {id : TypeId} {members : List TypeId}
    (found : g.get? id = some (.union members)) (rest : TypeId → Inline) :
    (g.layer rest id).Writable ↔
      members ≠ [] ∧ ∀ part ∈ (g.unionShape members).parts, (rest part).Writable := by
  rw [ne_eq, ← g.unionShape_eq_empty_iff members]
  unfold layer
  rw [found]
  dsimp only
  cases g.unionShape members with
  | empty => simp [Inline.Writable]
  | single only => simp [Inline.Writable, UnionShape.parts]
  | nullable inner => simp [Inline.Writable, UnionShape.parts]
  | general ordered =>
    simp only [Inline.Writable, Inline.allWritable_iff, UnionShape.parts, List.mem_map,
      forall_exists_index, and_imp, forall_apply_eq_imp_iff₂, reduceCtorEq, not_false_eq_true,
      true_and]

/-- Null can always be written, so a union may be judged by its members instead of its shape. -/
theorem writable_inline_union {g : Graph} (acyclic : g.InlineAcyclic) {id : TypeId}
    {members : List TypeId} (found : g.get? id = some (.union members)) :
    (g.inline id).Writable ↔ members ≠ [] ∧ ∀ member ∈ members, (g.inline member).Writable := by
  rw [inline_eq acyclic, writable_layer_union found]
  refine and_congr_right fun _ => ⟨fun parts member among => ?_, fun all part hp => ?_⟩
  · rcases mem_parts_or_isNull among with part | null
    · exact parts member part
    · rw [inline_eq acyclic]
      unfold layer
      rw [get?_of_isNull null]
      trivial
  · exact all part (g.parts_unionShape_subset members hp)

/-- Without inline cycles, what can be written is what the walk comes through without a fault. -/
theorem renderable_iff_writable {g : Graph} (acyclic : g.InlineAcyclic) (id : TypeId) :
    g.Renderable id ↔ (g.inline id).Writable := by
  constructor
  · intro renderable
    induction renderable with
    | primitive found | classType found | enumType found | dateTime found =>
      rw [inline_eq acyclic]
      unfold layer
      rw [found]
      trivial
    | array found _ ih | map found _ ih =>
      rw [inline_eq acyclic]
      unfold layer
      rw [found]
      exact ih
    | union found nonempty _ ih => exact (writable_inline_union acyclic found).mpr ⟨nonempty, ih⟩
  · intro writable
    induction id using acyclic.induction with
    | _ id ih =>
      cases found : g.get? id with
      | none =>
        rw [inline_of_missing found] at writable
        exact writable.elim
      | some node =>
        cases node with
        | primitive p => exact .primitive found
        | classType c => exact .classType found
        | enumType e => exact .enumType found
        | union members =>
          obtain ⟨nonempty, all⟩ := (writable_inline_union acyclic found).mp writable
          exact .union found nonempty fun member among =>
            ih member ⟨_, found, among⟩ (all member among)
        | array items =>
          rw [inline_eq acyclic, layer, found] at writable
          exact .array found (ih items ⟨_, found, List.mem_singleton_self items⟩ writable)
        | map values =>
          rw [inline_eq acyclic, layer, found] at writable
          exact .map found (ih values ⟨_, found, List.mem_singleton_self values⟩ writable)
        | formatted f =>
          rw [inline_eq acyclic, layer, found] at writable
          cases f with
          | dateTime => exact .dateTime found
          | date | time | uuid | uri | integerString | boolString => exact writable.elim

theorem fault?_eq_none_iff_renderable {g : Graph} (acyclic : g.InlineAcyclic) (id : TypeId)
    (l : Location) : g.fault? id l = none ↔ g.Renderable id := by
  rw [renderable_iff_writable acyclic]
  exact (g.inline id).fault?_eq_none_iff l

/-- Every reference leads to a type of the graph. -/
def Resolves (g : Graph) : Prop :=
  ∀ id node, g.get? id = some node → ∀ target ∈ node.references, (g.get? target).isSome

theorem resolves_of_danglingReference? {g : Graph} (sound : g.danglingReference? = none) :
    g.Resolves := by
  intro id node found target refers
  have listed : (TypeId.ofNat id.toNat, node) ∈ g.toList := by
    refine List.mem_map.mpr ⟨(node, id.toNat), ?_, rfl⟩
    rw [List.mem_zipIdx_iff_getElem?, Array.getElem?_toList]
    exact found
  have noTarget := Option.map_eq_none_iff.mp (List.findSome?_eq_none_iff.mp sound _ listed)
  have resolved := List.find?_eq_none.mp noTarget target refers
  rwa [Option.isNone_iff_eq_none, ← ne_eq, ← Option.isSome_iff_ne_none] at resolved

theorem fault?_expand_ne_unknownType {g : Graph} (resolves : g.Resolves) {depth : Nat}
    {id : TypeId} (inside : (g.get? id).isSome) (l : Location) (target : TypeId)
    (place : Location) : (g.expand depth id).fault? l ≠ some (.unknownType target place) := by
  induction depth generalizing id l with
  | zero =>
    intro stops
    cases stops
  | succ depth ih =>
    obtain ⟨node, found⟩ := Option.isSome_iff_exists.mp inside
    have resolved := resolves id node found
    rw [expand_succ]
    unfold layer
    rw [found]
    cases node with
    | primitive p | classType c | enumType e =>
      intro stops
      cases stops
    | formatted f =>
      intro stops
      cases f <;> cases stops
    | array items => exact ih (resolved items List.mem_cons_self) _
    | map values => exact ih (resolved values List.mem_cons_self) _
    | union members =>
      have parts : ∀ part ∈ (g.unionShape members).parts, (g.get? part).isSome := fun part hp =>
        resolved part (g.parts_unionShape_subset members hp)
      dsimp only
      split
      · intro stops
        cases stops
      · next only shape => exact ih (parts only (by simp [shape, UnionShape.parts])) _
      · next inner shape => exact ih (parts inner (by simp [shape, UnionShape.parts])) _
      · next ordered shape =>
        intro stops
        obtain ⟨member, hm, i, stops⟩ := Inline.exists_member_of_memberFault? stops
        obtain ⟨part, hp, rfl⟩ := List.mem_map.mp hm
        exact ih (parts part (by simpa [shape, UnionShape.parts] using hp)) (l.member i) stops

theorem fault?_ne_unknownType {g : Graph} (resolves : g.Resolves) {id : TypeId}
    (inside : (g.get? id).isSome) (l : Location) (target : TypeId) (place : Location) :
    g.fault? id l ≠ some (.unknownType target place) :=
  fault?_expand_ne_unknownType resolves inside l target place

end Graph

end JsonBinding
