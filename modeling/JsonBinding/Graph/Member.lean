import JsonBinding.Graph.Basic
/-!
The members of a union in the order in which they are written: by the rank of their kind, then by
declared name, then by id. The order does not depend on how the union lists them, since two members
that agree in all three are the same type (`eq_of_memberLE`).
-/
namespace JsonBinding

/-- The rank of a kind among the members of a union; a member that is no type comes last. -/
def memberRank : Option Node → Nat
  | some (.primitive .null) => 0
  | some (.primitive .bool) => 1
  | some (.primitive .integer) => 2
  | some (.primitive .double) => 3
  | some (.primitive .string) => 4
  | some (.formatted _) => 5
  | some (.array _) => 6
  | some (.map _) => 7
  | some (.enumType _) => 8
  | some (.classType _) => 9
  | some (.union _) => 10
  | some (.primitive .any) => 11
  | none => 255

namespace Graph

/-- The name by which a member is ordered; members without a name go by the empty one. -/
def memberName (g : Graph) (id : TypeId) : String :=
  ((g.get? id).bind Node.declaredName?).getD ""

/-- Whether one member may stand before another. -/
def memberLE (g : Graph) (a b : TypeId) : Bool :=
  let ra := memberRank (g.get? a)
  let rb := memberRank (g.get? b)
  if ra = rb then
    if g.memberName a = g.memberName b then a.toNat ≤ b.toNat
    else g.memberName a < g.memberName b
  else ra < rb

def insertMember (g : Graph) (id : TypeId) : List TypeId → List TypeId
  | [] => [id]
  | x :: xs => if g.memberLE id x then id :: x :: xs else x :: g.insertMember id xs

/-- The members of a union in the order in which they are written. -/
def memberOrder (g : Graph) (members : List TypeId) : List TypeId :=
  members.foldr g.insertMember []

theorem eq_of_memberLE {g : Graph} {a b : TypeId} (hab : g.memberLE a b) (hba : g.memberLE b a) :
    a = b := by
  unfold memberLE at hab hba
  by_cases rank : memberRank (g.get? a) = memberRank (g.get? b)
  · by_cases name : g.memberName a = g.memberName b
    · simp only [rank, name, if_true, decide_eq_true_eq] at hab hba
      exact TypeId.toNat_injective (Nat.le_antisymm hab hba)
    · simp only [rank, name, Ne.symm name, if_true, if_false, decide_eq_true_eq] at hab hba
      exact absurd hba (String.lt_asymm hab)
  · simp only [rank, Ne.symm rank, if_false, decide_eq_true_eq] at hab hba
    omega

theorem insertMember_perm (g : Graph) (id : TypeId) (members : List TypeId) :
    (g.insertMember id members).Perm (id :: members) := by
  induction members with
  | nil => exact .refl _
  | cons x xs ih =>
    unfold insertMember
    split
    · exact .refl _
    · exact (ih.cons x).trans (.swap id x xs)

theorem memberOrder_perm (g : Graph) (members : List TypeId) :
    (g.memberOrder members).Perm members := by
  induction members with
  | nil => exact .refl _
  | cons x xs ih => exact (g.insertMember_perm x _).trans (ih.cons x)

end Graph

inductive UnionShape
  | empty
  /-- A union of one member is that member. -/
  | single (member : TypeId)
  /-- Null and one other member make an optional type. -/
  | nullable (inner : TypeId)
  /-- All other unions list their members in order. -/
  | general (members : List TypeId)
  deriving DecidableEq, Repr

def Graph.unionShape (g : Graph) (members : List TypeId) : UnionShape :=
  match g.memberOrder members with
  | [] => .empty
  | [only] => .single only
  | [first, second] =>
    if g.isNull first && !g.isNull second then .nullable second else .general [first, second]
  | ordered => .general ordered

end JsonBinding
