import JsonBinding.Draft.Module
import JsonBinding.Proofs.Graph.MemberOrder
import JsonBinding.Proofs.Inline.Acyclic
/-!
Graphs that differ only in the order in which their unions list their members. Looked up under the
same id, two such graphs have types of the same rank, the same name and the same kind
(`rel_get?`), so they order members alike and write every type out alike (`inline_eq_of_reordered`).
All that is built from what is written out is the same as well, with the faults and their places:
hints, converters, and the text of every module (`member_order_never_shows`).
-/
namespace JsonBinding

/-- The same type, but that a union may list its members in another order. -/
inductive Node.Reordered : Node → Node → Prop
  | same (node : Node) : Reordered node node
  | union {members listed : List TypeId} : members.Perm listed →
      Reordered (.union members) (.union listed)

/-- The same types in the same places, but that unions may list their members in another order. -/
def Graph.Reordered (g h : Graph) : Prop :=
  List.Forall₂ Node.Reordered g.nodes.toList h.nodes.toList

theorem rel_getElem? {α β : Type} {R : α → β → Prop} {xs : List α} {ys : List β}
    (all : List.Forall₂ R xs ys) (n : Nat) : Option.Rel R xs[n]? ys[n]? := by
  induction all generalizing n with
  | nil => exact .none
  | cons first _ ih =>
    cases n with
    | zero => exact .some first
    | succ n => exact ih n

namespace Graph

variable {g h : Graph}

theorem rel_get? (reordered : g.Reordered h) (id : TypeId) :
    Option.Rel Node.Reordered (g.get? id) (h.get? id) := by
  have related := rel_getElem? reordered id.toNat
  rwa [Array.getElem?_toList, Array.getElem?_toList] at related

theorem memberKey_of_reordered (reordered : g.Reordered h) : h.memberKey = g.memberKey := by
  funext id
  unfold memberKey memberName
  generalize g.get? id = a, h.get? id = b, rel_get? reordered id = related
  cases related with
  | none => rfl
  | some nodes => cases nodes <;> rfl

theorem isNull_of_reordered (reordered : g.Reordered h) : h.isNull = g.isNull := by
  funext id
  unfold isNull
  generalize g.get? id = a, h.get? id = b, rel_get? reordered id = related
  cases related with
  | none => rfl
  | some nodes => cases nodes <;> rfl

theorem acceptsNull_of_reordered (reordered : g.Reordered h) : h.acceptsNull = g.acceptsNull := by
  funext id
  unfold acceptsNull
  rw [isNull_of_reordered reordered]
  generalize g.get? id = a, h.get? id = b, rel_get? reordered id = related
  cases related with
  | none => rfl
  | some nodes =>
    cases nodes with
    | same node => rfl
    | union perm => exact perm.symm.any_eq

theorem layer_of_reordered (reordered : g.Reordered h) : h.layer = g.layer := by
  funext rest id
  unfold layer
  generalize g.get? id = a, h.get? id = b, rel_get? reordered id = related
  have shape : ∀ {members listed}, members.Perm listed →
      h.unionShape listed = g.unionShape members :=
    unionShape_eq_of_perm (memberKey_of_reordered reordered) (isNull_of_reordered reordered)
  cases related with
  | none => rfl
  | @some node _ nodes =>
    cases nodes with
    | same =>
      cases node with
      | union members => simp only [shape (List.Perm.refl members)]
      | _ => rfl
    | union perm => simp only [shape perm]

theorem inline_eq_of_reordered (reordered : g.Reordered h) : h.inline = g.inline := by
  have expand : ∀ depth, h.expand depth = g.expand depth := by
    intro depth
    induction depth with
    | zero => rfl
    | succ depth ih =>
      funext id
      rw [expand_succ, expand_succ, layer_of_reordered reordered, ih]
  have size : h.size = g.size := reordered.length_eq.symm
  funext id
  rw [inline, inline, size, expand]

theorem hint_eq_of_reordered (reordered : g.Reordered h) : h.hint = g.hint := by
  funext declared id l
  rw [hint, hint, inline_eq_of_reordered reordered]

theorem converter_eq_of_reordered (reordered : g.Reordered h) : h.converter = g.converter := by
  funext d id l
  rw [converter, converter, inline_eq_of_reordered reordered]

theorem propertyHint_eq_of_reordered (reordered : g.Reordered h) :
    h.propertyHint = g.propertyHint := by
  funext declared property l
  unfold propertyHint
  rw [acceptsNull_of_reordered reordered, hint_eq_of_reordered reordered]

theorem propertyConverter_eq_of_reordered (reordered : g.Reordered h) :
    h.propertyConverter = g.propertyConverter := by
  funext d property l
  unfold propertyConverter
  rw [acceptsNull_of_reordered reordered, converter_eq_of_reordered reordered]

end Graph

namespace Plan

variable {g h : Graph} {descriptions : Descriptions} {options : Options}

theorem declareClass_of_reordered (reordered : g.Reordered h) (id : TypeId) (c : ClassType) :
    declareClass ⟨h, descriptions, options⟩ id c =
      declareClass ⟨g, descriptions, options⟩ id c := by
  simp only [declareClass, classBody, fields, converters,
    Graph.propertyHint_eq_of_reordered reordered, Graph.propertyConverter_eq_of_reordered reordered]

theorem declare_of_reordered (reordered : g.Reordered h) (id : TypeId) :
    declare ⟨h, descriptions, options⟩ id = declare ⟨g, descriptions, options⟩ id := by
  unfold declare
  dsimp only
  generalize g.get? id = a, h.get? id = b, Graph.rel_get? reordered id = related
  cases related with
  | none => rfl
  | @some node _ nodes =>
    cases nodes with
    | same =>
      cases node with
      | classType c => exact declareClass_of_reordered reordered id c
      | _ => rfl
    | union perm => rfl

theorem perform_of_reordered (reordered : g.Reordered h) (request : Request) :
    perform ⟨h, descriptions, options⟩ request = perform ⟨g, descriptions, options⟩ request := by
  cases request with
  | declare id => exact declare_of_reordered reordered id
  | entryPoint name id =>
    simp only [perform, addEntryPoint, Graph.hint_eq_of_reordered reordered,
      Graph.converter_eq_of_reordered reordered]

theorem performUntilFault_of_reordered (reordered : g.Reordered h) (requests : List Request) :
    performUntilFault ⟨h, descriptions, options⟩ requests =
      performUntilFault ⟨g, descriptions, options⟩ requests := by
  induction requests with
  | nil => rfl
  | cons request rest ih =>
    rw [performUntilFault, performUntilFault, perform_of_reordered reordered, ih]

end Plan

/-- In which order unions list their members shows nowhere: not in the text of a module nor in the
fault that there is instead, and neither in hints and converters nor in what they register. Members
are brought into the order of rank, name and id, which is the same for all lists of the same
members, repeated and missing ones included. -/
theorem Graph.member_order_never_shows {g h : Graph} (reordered : g.Reordered h) :
    (∀ descriptions options order entryPoints,
      Plan.generate ⟨h, descriptions, options⟩ order entryPoints =
        Plan.generate ⟨g, descriptions, options⟩ order entryPoints) ∧
    (∀ declared id l, h.hint declared id l = g.hint declared id l) ∧
    (∀ declared property l,
      h.propertyHint declared property l = g.propertyHint declared property l) ∧
    (∀ d id l, h.converter d id l = g.converter d id l) ∧
    (∀ d property l, h.propertyConverter d property l = g.propertyConverter d property l) ∧
    ∀ members, (g.memberOrder members).Perm members ∧ g.Ordered (g.memberOrder members) ∧
      ∀ listed, members.Perm listed →
        g.memberOrder listed = g.memberOrder members ∧
        h.memberOrder listed = g.memberOrder members := by
  refine ⟨?_, ?_, ?_, ?_, ?_, ?_⟩
  · intro descriptions options order entryPoints
    unfold Plan.generate
    rw [Plan.performUntilFault_of_reordered reordered]
  · intro declared id l
    rw [hint_eq_of_reordered reordered]
  · intro declared property l
    rw [propertyHint_eq_of_reordered reordered]
  · intro d id l
    rw [converter_eq_of_reordered reordered]
  · intro d property l
    rw [propertyConverter_eq_of_reordered reordered]
  · intro members
    refine ⟨g.memberOrder_perm members, g.ordered_memberOrder members, fun listed perm => ?_⟩
    exact ⟨memberOrder_eq_of_perm rfl perm,
      memberOrder_eq_of_perm (memberKey_of_reordered reordered) perm⟩

namespace Graph

/-- A union of a class, of a union with null, and of a type that is missing. -/
def nestedUnion : Graph :=
  ⟨#[.union [⟨1⟩, ⟨2⟩, ⟨9⟩], .classType ⟨"Page", .ofList [("next", ⟨"next", ⟨2⟩, true⟩)]⟩,
    .union [⟨3⟩, ⟨4⟩], .primitive .null, .primitive .integer]⟩

def nestedUnionRelisted : Graph :=
  ⟨#[.union [⟨9⟩, ⟨1⟩, ⟨2⟩], .classType ⟨"Page", .ofList [("next", ⟨"next", ⟨2⟩, true⟩)]⟩,
    .union [⟨4⟩, ⟨3⟩], .primitive .null, .primitive .integer]⟩

theorem nestedUnion_relisted :
    nestedUnion.Reordered nestedUnionRelisted ∧
      (nestedUnionRelisted.hint (fun _ => false) ⟨0⟩ ⟨.entryPoint "Test", []⟩).outcome =
        .error (.unknownType ⟨9⟩ ⟨.entryPoint "Test", [.member 2]⟩) ∧
      (nestedUnionRelisted.hint (fun _ => false) ⟨2⟩ ⟨.entryPoint "Test", []⟩).record =
        [.optional] ∧
      Plan.generate ⟨nestedUnionRelisted, .none, {}⟩ [⟨1⟩] (.ofList [("page", ⟨2⟩)]) =
        Plan.generate ⟨nestedUnion, .none, {}⟩ [⟨1⟩] (.ofList [("page", ⟨2⟩)]) ∧
      nestedUnion.memberOrder [⟨9⟩, ⟨2⟩, ⟨1⟩] = [⟨1⟩, ⟨2⟩, ⟨9⟩] := by
  have outer : [⟨1⟩, ⟨2⟩, ⟨9⟩].Perm [(⟨9⟩ : TypeId), ⟨1⟩, ⟨2⟩] := by decide
  have inner : [⟨3⟩, ⟨4⟩].Perm [(⟨4⟩ : TypeId), ⟨3⟩] := by decide
  have listed : [⟨1⟩, ⟨2⟩, ⟨9⟩].Perm [(⟨9⟩ : TypeId), ⟨2⟩, ⟨1⟩] := by decide
  have reordered : nestedUnion.Reordered nestedUnionRelisted :=
    .cons (.union outer) (.cons (.same _) (.cons (.union inner)
      (.cons (.same _) (.cons (.same _) .nil))))
  obtain ⟨modules, hints, -, -, -, orders⟩ := member_order_never_shows reordered
  refine ⟨reordered, ?_, ?_, modules .none {} [⟨1⟩] (.ofList [("page", ⟨2⟩)]), ?_⟩
  · rw [hints]
    rfl
  · rw [hints]
    rfl
  · exact ((orders [⟨1⟩, ⟨2⟩, ⟨9⟩]).2.2 [⟨9⟩, ⟨2⟩, ⟨1⟩] listed).1

end Graph

end JsonBinding
