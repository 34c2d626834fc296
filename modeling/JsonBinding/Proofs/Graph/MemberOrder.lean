import JsonBinding.Graph.Member
import Mathlib.Data.List.Sort
import Mathlib.Data.Prod.Lex
import Mathlib.Data.String.Basic
/-!
The order of the members of a union is that of a key: the rank of the kind, then the name, then the
id (`memberLE_iff`). Keys of different members differ, so all lists of the same members are brought
into the same order (`memberOrder_eq_of_perm`), and the shape of a union does not depend on how the
union lists its members (`unionShape_eq_of_perm`).
-/
namespace JsonBinding.Graph

/-- What a member is ordered by. -/
def memberKey (g : Graph) (id : TypeId) : Nat ×ₗ String ×ₗ Nat :=
  toLex (memberRank (g.get? id), toLex (g.memberName id, id.toNat))

theorem memberLE_iff (g : Graph) (a b : TypeId) :
    g.memberLE a b = true ↔ g.memberKey a ≤ g.memberKey b := by
  rw [memberKey, memberKey, Prod.Lex.toLex_le_toLex, Prod.Lex.toLex_le_toLex]
  unfold memberLE
  by_cases rank : memberRank (g.get? a) = memberRank (g.get? b)
  · by_cases name : g.memberName a = g.memberName b
    · simp [rank, name]
    · simp [rank, name]
  · simp [rank]

theorem memberKey_injective (g : Graph) : Function.Injective g.memberKey := by
  intro a b same
  have forth : g.memberLE a b = true := (g.memberLE_iff a b).mpr same.le
  have back : g.memberLE b a = true := (g.memberLE_iff b a).mpr same.ge
  exact eq_of_memberLE forth back

/-- The members stand in the order of their keys. -/
def Ordered (g : Graph) (members : List TypeId) : Prop :=
  members.Pairwise fun a b => g.memberKey a ≤ g.memberKey b

theorem ordered_insertMember {g : Graph} (id : TypeId) {members : List TypeId}
    (ordered : g.Ordered members) : g.Ordered (g.insertMember id members) := by
  induction members with
  | nil => exact List.pairwise_singleton _ _
  | cons x xs ih =>
    obtain ⟨first, rest⟩ := List.pairwise_cons.mp ordered
    unfold insertMember
    split
    · next before =>
      have le : g.memberKey id ≤ g.memberKey x := (g.memberLE_iff id x).mp before
      refine List.pairwise_cons.mpr ⟨fun y among => ?_, ordered⟩
      rcases List.mem_cons.mp among with rfl | later
      · exact le
      · exact le.trans (first y later)
    · next after =>
      have le : g.memberKey x ≤ g.memberKey id :=
        le_of_not_ge fun h => after ((g.memberLE_iff id x).mpr h)
      refine List.pairwise_cons.mpr ⟨fun y among => ?_, ih rest⟩
      rcases List.mem_cons.mp ((g.insertMember_perm id xs).mem_iff.mp among) with rfl | later
      · exact le
      · exact first y later

theorem ordered_memberOrder (g : Graph) (members : List TypeId) :
    g.Ordered (g.memberOrder members) := by
  induction members with
  | nil => exact List.Pairwise.nil
  | cons x xs ih => exact ordered_insertMember x ih

/-- Lists of the same members are brought into the same order wherever members have the same
keys. -/
theorem memberOrder_eq_of_perm {g h : Graph} (keys : h.memberKey = g.memberKey)
    {members listed : List TypeId} (perm : members.Perm listed) :
    h.memberOrder listed = g.memberOrder members := by
  have same : (h.memberOrder listed).Perm (g.memberOrder members) :=
    (h.memberOrder_perm listed).trans (perm.symm.trans (g.memberOrder_perm members).symm)
  have ordered : g.Ordered (h.memberOrder listed) := by
    unfold Ordered
    rw [← keys]
    exact h.ordered_memberOrder listed
  refine same.eq_of_pairwise (fun a b _ _ forth back => ?_) ordered (g.ordered_memberOrder members)
  exact g.memberKey_injective (le_antisymm forth back)

theorem unionShape_eq_of_perm {g h : Graph} (keys : h.memberKey = g.memberKey)
    (nulls : h.isNull = g.isNull) {members listed : List TypeId} (perm : members.Perm listed) :
    h.unionShape listed = g.unionShape members := by
  unfold unionShape
  rw [memberOrder_eq_of_perm keys perm, nulls]

end JsonBinding.Graph
