import JsonBinding.Proofs.Graph.MemberOrder
import Mathlib.Data.List.Permutation
/-!
The shape of a union. Null has the least rank of all, so among the members in order it comes first,
and the shape can be read off the members in whichever order the union lists them
(`unionShape_eq_iff`). A shape writes out no type but the members of its union
(`parts_unionShape_subset`), and all of these but null (`mem_parts_or_nullable`).
-/
namespace JsonBinding

/-- The types that a shape writes out. -/
def UnionShape.parts : UnionShape → List TypeId
  | .empty => []
  | .single only => [only]
  | .nullable inner => [inner]
  | .general ordered => ordered

namespace Graph

/-- The members are null and one other type, in either order. -/
def IsNullPair (g : Graph) (members : List TypeId) (inner : TypeId) : Prop :=
  ∃ null, g.isNull null = true ∧ g.isNull inner = false ∧ [null, inner].Perm members

/-- The shape that a union has by its members. -/
inductive HasShape (g : Graph) (members : List TypeId) : UnionShape → Prop
  | empty : members = [] → HasShape g members .empty
  | single {only : TypeId} : members = [only] → HasShape g members (.single only)
  | nullable {inner : TypeId} : g.IsNullPair members inner → HasShape g members (.nullable inner)
  | general : 2 ≤ members.length → (∀ inner, ¬ g.IsNullPair members inner) →
      HasShape g members (.general (g.memberOrder members))

variable {g : Graph} {members : List TypeId}

theorem memberRank_eq_zero_iff (g : Graph) (id : TypeId) :
    memberRank (g.get? id) = 0 ↔ g.isNull id = true := by
  unfold isNull
  cases g.get? id with
  | none => simp [memberRank]
  | some node =>
    cases node with
    | primitive p => cases p <;> simp [memberRank]
    | _ => simp [memberRank]

/-- Null comes first among the members of a union, so that a union of null and one more type is
written as optional whichever it lists first. -/
theorem unionShape_of_isNullPair {inner : TypeId} (pair : g.IsNullPair members inner) :
    g.unionShape members = .nullable inner := by
  obtain ⟨null, isNull, other, perm⟩ := pair
  have zero := (g.memberRank_eq_zero_iff null).mpr isNull
  have positive : memberRank (g.get? inner) ≠ 0 := by
    rw [ne_eq, g.memberRank_eq_zero_iff, other]
    decide
  have before : g.memberLE null inner = true := by
    unfold memberLE
    simp [zero, positive.symm, Nat.pos_of_ne_zero positive]
  have order : g.memberOrder [null, inner] = [null, inner] := by
    simp [memberOrder, insertMember, before]
  rw [unionShape_eq_of_perm rfl rfl perm]
  unfold unionShape
  simp [order, isNull, other]

theorem hasShape_unionShape (g : Graph) (members : List TypeId) :
    g.HasShape members (g.unionShape members) := by
  have perm := g.memberOrder_perm members
  have unpaired : (∀ inner, g.unionShape members ≠ .nullable inner) →
      ∀ inner, ¬ g.IsNullPair members inner :=
    fun other inner pair => other inner (unionShape_of_isNullPair pair)
  generalize shape : g.unionShape members = found at unpaired ⊢
  unfold unionShape at shape
  split at shape
  · next none =>
    rw [none] at perm
    subst shape
    exact .empty perm.nil_eq.symm
  · next only one =>
    rw [one] at perm
    subst shape
    exact .single (List.singleton_perm.mp perm).symm
  · next first second two =>
    split at shape
    · next pair =>
      subst shape
      rw [two] at perm
      simp only [Bool.and_eq_true, Bool.not_eq_true'] at pair
      exact .nullable ⟨first, pair.1, pair.2, perm⟩
    · subst shape
      rw [← two]
      refine .general ?_ (unpaired nofun)
      rw [← perm.length_eq, two]
      exact Nat.le_refl 2
  · next notEmpty notSingle _ =>
    subst shape
    refine .general ?_ (unpaired nofun)
    rw [← perm.length_eq]
    generalize g.memberOrder members = ordered at notEmpty notSingle
    match ordered with
    | [] => exact absurd rfl notEmpty
    | [only] => exact absurd rfl (notSingle only)
    | first :: second :: rest => exact Nat.le_add_left 2 rest.length

theorem unionShape_eq_iff {shape : UnionShape} :
    g.unionShape members = shape ↔ g.HasShape members shape := by
  constructor
  · rintro rfl
    exact g.hasShape_unionShape members
  · intro h
    cases h with
    | empty none =>
      rw [none]
      rfl
    | single one =>
      rw [one]
      rfl
    | nullable pair => exact unionShape_of_isNullPair pair
    | general long unpaired =>
      have own := g.hasShape_unionShape members
      generalize g.unionShape members = found at own ⊢
      cases own with
      | empty none =>
        rw [none] at long
        cases long
      | single one =>
        rw [one] at long
        exact absurd long (Nat.lt_irrefl 1)
      | nullable pair => exact absurd pair (unpaired _)
      | general => rfl

theorem unionShape_eq_empty_iff (g : Graph) (members : List TypeId) :
    g.unionShape members = .empty ↔ members = [] := by
  rw [unionShape_eq_iff]
  exact ⟨fun | .empty unlisted => unlisted, .empty⟩

theorem parts_unionShape_subset (g : Graph) (members : List TypeId) :
    (g.unionShape members).parts ⊆ members := by
  intro part written
  have shape := g.hasShape_unionShape members
  generalize g.unionShape members = found at written shape
  cases shape with
  | empty _ => cases written
  | single one =>
    rw [one]
    exact written
  | nullable pair =>
    obtain ⟨null, -, -, perm⟩ := pair
    exact perm.subset (List.mem_cons_of_mem _ written)
  | general _ _ => exact (g.memberOrder_perm members).subset written

/-- A shape leaves out no member but null, and that only where it says optional. -/
theorem mem_parts_or_nullable {member : TypeId} (among : member ∈ members) :
    member ∈ (g.unionShape members).parts ∨
      g.isNull member = true ∧ ∃ inner, g.unionShape members = .nullable inner := by
  have shape := g.hasShape_unionShape members
  generalize g.unionShape members = found at shape
  cases shape with
  | empty unlisted =>
    rw [unlisted] at among
    cases among
  | single one =>
    rw [one] at among
    exact .inl among
  | nullable pair =>
    obtain ⟨null, isNull, -, perm⟩ := pair
    rcases List.mem_cons.mp (perm.mem_iff.mpr among) with rfl | last
    · exact .inr ⟨isNull, _, rfl⟩
    · exact .inl last
  | general _ _ => exact .inl ((g.memberOrder_perm members).mem_iff.mpr among)

theorem mem_parts_or_isNull {member : TypeId} (among : member ∈ members) :
    member ∈ (g.unionShape members).parts ∨ g.isNull member = true :=
  (mem_parts_or_nullable among).imp_right And.left

theorem exists_isNull_of_nullable {inner : TypeId}
    (shape : g.unionShape members = .nullable inner) :
    ∃ null ∈ members, g.isNull null = true := by
  obtain _ | _ | ⟨null, isNull, -, perm⟩ | _ := unionShape_eq_iff.mp shape
  exact ⟨null, perm.subset List.mem_cons_self, isNull⟩

end Graph

end JsonBinding
