import JsonBinding.Graph.Inline
import JsonBinding.Proofs.Graph.UnionShape
import Mathlib.Data.Fintype.EquivFin
import Mathlib.Data.List.Perm.Subperm
import Mathlib.Logic.Relation
/-!
Graphs in which no type is written out inside itself. Classes and enums may refer to one another in
any way, since they are not written out where they are used. A walk that writes a type out descends
from it along chains of parts. On a graph without inline cycles the types of a chain are all
different, so that the chain is no longer than the graph has types, and one more where it leads
outside (`length_le_of_isChain`), and a walk that may go that deep comes to its end
(`walkWithin_eq`). So the depth that `Graph.inline` allows itself is never used up
(`finished_inline`), and a written-out type is one layer around its written-out parts (`inline_eq`).
-/
namespace JsonBinding

open Relation (TransGen)

/-- The types that are written out inside a type. -/
def Node.inlineParts : Node → List TypeId
  | .array items => [items]
  | .map values => [values]
  | .union members => members
  | .primitive _ | .classType _ | .enumType _ | .formatted _ => []

/-- What a walk makes of a type of each kind, given what it makes of the parts. -/
structure Visitor (β : Type) where
  missing : TypeId → β
  primitive : Primitive → β
  array : β → β
  map : β → β
  classRef : TypeId → String → β
  enumRef : TypeId → String → β
  formatted : StringFormat → β
  emptyUnion : β
  single : β → β
  nullable : β → β
  union : List β → β

def Inline.visitor : Visitor Inline where
  missing := .missing
  primitive := .primitive
  array := .array
  map := .map
  classRef := .classRef
  enumRef := .enumRef
  formatted := .formatted
  emptyUnion := .emptyUnion
  single := .single
  nullable := .nullable
  union := .union

namespace Graph

/-- One type is written out directly inside another. -/
def Contains (g : Graph) (whole part : TypeId) : Prop :=
  ∃ node, g.get? whole = some node ∧ part ∈ node.inlineParts

/-- No type is written out inside itself, at whatever depth. -/
def InlineAcyclic (g : Graph) : Prop :=
  ∀ id, ¬ TransGen g.Contains id id

/-- One layer of a written-out type; `rest` writes out the parts. -/
def layer (g : Graph) (rest : TypeId → Inline) (id : TypeId) : Inline :=
  match g.get? id with
  | none => .missing id
  | some (.primitive p) => .primitive p
  | some (.array items) => .array (rest items)
  | some (.map values) => .map (rest values)
  | some (.classType c) => .classRef id c.name
  | some (.enumType e) => .enumRef id e.name
  | some (.formatted f) => .formatted f
  | some (.union members) =>
    match g.unionShape members with
    | .empty => .emptyUnion
    | .single only => .single (rest only)
    | .nullable inner => .nullable (rest inner)
    | .general ordered => .union (ordered.map rest)

theorem expand_succ (g : Graph) (depth : Nat) (id : TypeId) :
    g.expand (depth + 1) id = g.layer (g.expand depth) id := rfl

/-- One step of a walk; `rest` is the walk from the parts. -/
def visit {β : Type} (g : Graph) (v : Visitor β) (rest : TypeId → β) (id : TypeId) : β :=
  match g.get? id with
  | none => v.missing id
  | some (.primitive p) => v.primitive p
  | some (.array items) => v.array (rest items)
  | some (.map values) => v.map (rest values)
  | some (.classType c) => v.classRef id c.name
  | some (.enumType e) => v.enumRef id e.name
  | some (.formatted f) => v.formatted f
  | some (.union members) =>
    match g.unionShape members with
    | .empty => v.emptyUnion
    | .single only => v.single (rest only)
    | .nullable inner => v.nullable (rest inner)
    | .general ordered => v.union (ordered.map rest)

/-- The types that a walk descends to from a type. Null is passed over where it makes a type
optional. -/
def descents (g : Graph) (id : TypeId) : List TypeId :=
  match g.get? id with
  | some (.array items) => [items]
  | some (.map values) => [values]
  | some (.union members) => (g.unionShape members).parts
  | _ => []

/-- A walk descends from one type to another. -/
def Descends (g : Graph) (whole part : TypeId) : Prop :=
  part ∈ g.descents whole

instance (g : Graph) (whole part : TypeId) : Decidable (g.Descends whole part) :=
  inferInstanceAs (Decidable (part ∈ g.descents whole))

theorem Descends.contains {g : Graph} {whole part : TypeId} (step : g.Descends whole part) :
    g.Contains whole part := by
  unfold Descends descents at step
  split at step
  · next items found => exact ⟨_, found, step⟩
  · next values found => exact ⟨_, found, step⟩
  · next members found => exact ⟨_, found, g.parts_unionShape_subset members step⟩
  · cases step

theorem Descends.unnamed {g : Graph} {whole part : TypeId} (step : g.Descends whole part) :
    ∃ node, g.get? whole = some node ∧ node.declaredName? = none := by
  unfold Descends descents at step
  split at step
  · next found => exact ⟨_, found, rfl⟩
  · next found => exact ⟨_, found, rfl⟩
  · next found => exact ⟨_, found, rfl⟩
  · cases step

/-- A walk with a limit to how deep it goes; `call` takes one step of it, given the walks from the
parts. -/
def walkWithin {β : Type} (call : (TypeId → β) → TypeId → β) (stop : TypeId → β) :
    Nat → TypeId → β
  | 0 => stop
  | limit + 1 => call (walkWithin call stop limit)

theorem expand_eq_walkWithin (g : Graph) (depth : Nat) :
    g.expand depth = walkWithin g.layer .endless depth := by
  induction depth with
  | zero => exact funext fun _ => rfl
  | succ depth ih =>
    funext id
    rw [expand_succ, ih]
    rfl

def CallsDown {β : Type} (g : Graph) (call : (TypeId → β) → TypeId → β) : Prop :=
  ∀ id f h, (∀ part, g.Descends id part → f part = h part) → call f id = call h id

theorem callsDown_visit {β : Type} (g : Graph) (v : Visitor β) : g.CallsDown (g.visit v) := by
  intro id f h same
  unfold Descends descents at same
  unfold visit
  cases found : g.get? id with
  | none => rfl
  | some node =>
    rw [found] at same
    cases node with
    | array items =>
      dsimp only
      rw [same items (List.mem_singleton_self items)]
    | map values =>
      dsimp only
      rw [same values (List.mem_singleton_self values)]
    | union members =>
      dsimp only at same ⊢
      cases shape : g.unionShape members with
      | empty => rfl
      | single only => exact congrArg v.single (same only (by simp [shape, UnionShape.parts]))
      | nullable inner => exact congrArg v.nullable (same inner (by simp [shape, UnionShape.parts]))
      | general ordered =>
        refine congrArg v.union (List.map_congr_left fun part among => same part ?_)
        simpa [shape, UnionShape.parts] using among
    | _ => rfl

theorem layer_eq_visit (g : Graph) : g.layer = g.visit Inline.visitor := by
  funext rest id
  unfold layer visit
  cases g.get? id with
  | none => rfl
  | some node =>
    cases node with
    | union members =>
      dsimp only
      cases g.unionShape members <;> rfl
    | _ => rfl

theorem callsDown_layer (g : Graph) : g.CallsDown g.layer :=
  g.layer_eq_visit ▸ g.callsDown_visit Inline.visitor

theorem toNat_lt_size_of_transGen {g : Graph} {whole part : TypeId}
    (h : TransGen g.Contains whole part) : whole.toNat < g.size := by
  obtain ⟨_, ⟨node, found, _⟩, _⟩ := Relation.TransGen.head'_iff.mp h
  by_contra beyond
  rw [(g.get?_eq_none_iff whole).mpr (Nat.le_of_not_lt beyond)] at found
  cases found

theorem length_le_size {g : Graph} {above : List TypeId} {id : TypeId} (nodup : above.Nodup)
    (reach : ∀ a ∈ above, TransGen g.Contains a id) : above.length ≤ g.size := by
  have places : (above.map TypeId.toNat).Nodup :=
    nodup.map fun _ _ => TypeId.toNat_injective
  have bounded : above.map TypeId.toNat ⊆ List.range g.size := by
    intro n hn
    obtain ⟨a, ha, rfl⟩ := List.mem_map.mp hn
    exact List.mem_range.mpr (toNat_lt_size_of_transGen (reach a ha))
  have short := (List.subperm_of_subset places bounded).length_le
  rwa [List.length_map, List.length_range] at short

section Chains

variable {g : Graph} {chain : List TypeId}

theorem pairwise_of_isChain (descending : List.IsChain g.Descends chain) :
    chain.Pairwise (TransGen g.Contains) := by
  have steps : List.IsChain (TransGen g.Contains) chain :=
    descending.imp fun _ _ step => .single step.contains
  exact steps.pairwise

theorem nodup_of_isChain (acyclic : g.InlineAcyclic)
    (descending : List.IsChain g.Descends chain) : chain.Nodup := by
  refine (pairwise_of_isChain descending).imp ?_
  rintro whole _ inside rfl
  exact acyclic whole inside

/-- A chain passes every type of the graph once at most, and ends outside it at most once. -/
theorem length_le_of_isChain (acyclic : g.InlineAcyclic)
    (descending : List.IsChain g.Descends chain) : chain.length ≤ g.size + 1 := by
  rcases List.eq_nil_or_concat' chain with rfl | ⟨above, last, rfl⟩
  · exact Nat.zero_le _
  · have nodup : above.Nodup := (nodup_of_isChain acyclic descending).sublist
      (List.sublist_append_left above [last])
    have reach : ∀ a ∈ above, TransGen g.Contains a last := fun a ha =>
      (List.pairwise_append.mp (pairwise_of_isChain descending)).2.2 a ha last
        (List.mem_singleton_self last)
    rw [List.length_append, List.length_singleton]
    exact Nat.succ_le_succ (length_le_size nodup reach)

theorem walkWithin_succ_eq {β : Type} {call : (TypeId → β) → TypeId → β} {stop : TypeId → β}
    (down : g.CallsDown call) {limit : Nat} {id : TypeId}
    (short : ∀ path, List.IsChain g.Descends (id :: path) → (id :: path).length ≤ limit) :
    walkWithin call stop (limit + 1) id = walkWithin call stop limit id := by
  induction limit generalizing id with
  | zero => exact absurd (short [] (.singleton id)) (Nat.not_succ_le_zero 0)
  | succ limit ih =>
    refine down id _ _ fun part step => ih fun path descending => ?_
    exact Nat.le_of_succ_le_succ
      (short (part :: path) (List.isChain_cons_cons.mpr ⟨step, descending⟩))

theorem walkWithin_eq {β : Type} {call : (TypeId → β) → TypeId → β} {stop : TypeId → β}
    (acyclic : g.InlineAcyclic) (down : g.CallsDown call) {limit : Nat}
    (enough : g.size + 1 ≤ limit) (id : TypeId) :
    walkWithin call stop limit id = walkWithin call stop (g.size + 1) id := by
  induction limit, enough using Nat.le_induction with
  | base => rfl
  | succ limit enough ih =>
    rw [← ih]
    exact walkWithin_succ_eq down fun _ descending =>
      (length_le_of_isChain acyclic descending).trans enough

end Chains

theorem inline_eq {g : Graph} (acyclic : g.InlineAcyclic) (id : TypeId) :
    g.inline id = g.layer g.inline id := by
  have whole : g.inline = walkWithin g.layer .endless (g.size + 1) :=
    g.expand_eq_walkWithin (g.size + 1)
  rw [whole]
  exact (walkWithin_eq acyclic g.callsDown_layer (Nat.le_succ (g.size + 1)) id).symm

end Graph

instance : Finite TypeId :=
  Finite.of_injective (fun id => (⟨id.toNat, id.index.toNat_lt⟩ : Fin UInt32.size)) fun _ _ same =>
    TypeId.toNat_injective (congrArg Fin.val same)

theorem Graph.InlineAcyclic.induction {g : Graph} (acyclic : g.InlineAcyclic)
    {motive : TypeId → Prop} (step : ∀ id, (∀ part, g.Contains id part → motive part) → motive id)
    (id : TypeId) : motive id := by
  have irreflexive : Std.Irrefl (fun part whole => TransGen g.Contains whole part) :=
    ⟨acyclic⟩
  have transitive : IsTrans TypeId (fun part whole => TransGen g.Contains whole part) :=
    ⟨fun _ _ _ lower upper => upper.trans lower⟩
  have wellFounded := Finite.wellFounded_of_trans_of_irrefl
    (fun part whole => TransGen g.Contains whole part)
  induction id using wellFounded.induction with
  | _ id ih => exact step id fun part inside => ih part (.single inside)

namespace Graph

/-- A number that falls from every type to its parts leaves no room for a cycle. -/
theorem inlineAcyclic_of_rank {g : Graph} (rank : TypeId → Nat)
    (falls : ∀ whole part, g.Contains whole part → rank part < rank whole) : g.InlineAcyclic := by
  have below : ∀ {whole part}, TransGen g.Contains whole part → rank part < rank whole := by
    intro whole part h
    induction h with
    | single inside => exact falls _ _ inside
    | tail _ inside ih => exact (falls _ _ inside).trans ih
  intro id cycle
  exact Nat.lt_irrefl _ (below cycle)

theorem inlineAcyclic_of_placeRank {g : Graph} (rank : Nat → Nat)
    (falls : ∀ entry ∈ g.nodes.toList.zipIdx, ∀ part ∈ entry.1.inlineParts,
      rank part.toNat < rank entry.2) : g.InlineAcyclic := by
  refine inlineAcyclic_of_rank (fun id => rank id.toNat) ?_
  rintro whole part ⟨node, found, inside⟩
  have listed : (node, whole.toNat) ∈ g.nodes.toList.zipIdx := by
    rw [List.mem_zipIdx_iff_getElem?, Array.getElem?_toList]
    exact found
  exact falls _ listed part inside

theorem inlineAcyclic_of_ascending {g : Graph}
    (ascending : ∀ entry ∈ g.nodes.toList.zipIdx, ∀ part ∈ entry.1.inlineParts,
      entry.2 < part.toNat) : g.InlineAcyclic := by
  refine inlineAcyclic_of_placeRank (fun place => UInt32.size - place) ?_
  intro entry listed part inside
  have later := ascending entry listed part inside
  have bounded : part.toNat < UInt32.size := part.index.toNat_lt
  omega

end Graph

mutual

/-- The walk that wrote a type out came to an end everywhere. -/
def Inline.Finished : Inline → Prop
  | .primitive _ | .classRef _ _ | .enumRef _ _ | .formatted _ | .emptyUnion | .missing _ => True
  | .array items => items.Finished
  | .map values => values.Finished
  | .single only => only.Finished
  | .nullable inner => inner.Finished
  | .union members => Inline.AllFinished members
  | .endless _ => False

def Inline.AllFinished : List Inline → Prop
  | [] => True
  | member :: rest => member.Finished ∧ Inline.AllFinished rest

end

theorem Inline.allFinished_iff (members : List Inline) :
    Inline.AllFinished members ↔ ∀ member ∈ members, member.Finished := by
  induction members with
  | nil => simp [Inline.AllFinished]
  | cons member rest ih => simp [Inline.AllFinished, ih]

namespace Graph

theorem finished_layer_iff (g : Graph) (rest : TypeId → Inline) (id : TypeId) :
    (g.layer rest id).Finished ↔ ∀ part, g.Descends id part → (rest part).Finished := by
  unfold layer Descends descents
  cases g.get? id with
  | none => simp [Inline.Finished]
  | some node =>
    cases node with
    | union members =>
      dsimp only
      cases g.unionShape members <;>
        simp [UnionShape.parts, Inline.Finished, Inline.allFinished_iff]
    | _ => simp [Inline.Finished]

/-- A walk stays within a depth iff it descends along no longer chain. -/
theorem finished_expand_iff (g : Graph) (depth : Nat) (id : TypeId) :
    (g.expand depth id).Finished ↔
      ∀ path, List.IsChain g.Descends (id :: path) → (id :: path).length ≤ depth := by
  induction depth generalizing id with
  | zero =>
    constructor
    · exact False.elim
    · intro short
      exact absurd (short [] (.singleton id)) (Nat.not_succ_le_zero 0)
  | succ depth ih =>
    rw [expand_succ, finished_layer_iff]
    constructor
    · intro finished path descending
      cases path with
      | nil => exact Nat.succ_le_succ (Nat.zero_le depth)
      | cons part path =>
        obtain ⟨step, later⟩ := List.isChain_cons_cons.mp descending
        exact Nat.succ_le_succ ((ih part).mp (finished part step) path later)
    · intro short part step
      refine (ih part).mpr fun path descending => ?_
      exact Nat.le_of_succ_le_succ
        (short (part :: path) (List.isChain_cons_cons.mpr ⟨step, descending⟩))

theorem finished_inline {g : Graph} (acyclic : g.InlineAcyclic) (id : TypeId) :
    (g.inline id).Finished :=
  (g.finished_expand_iff (g.size + 1) id).mpr fun _ descending =>
    length_le_of_isChain acyclic descending

end Graph

end JsonBinding
