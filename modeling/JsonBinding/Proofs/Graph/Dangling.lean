import JsonBinding.Graph.Basic
/-!
References that lead outside the graph. What a type points at is said place by place
(`Node.PointsAt`), so that it makes sense to ask which reference of a type comes first. The check of
a graph passes iff all references lead to types of the graph, and otherwise tells the first one that
does not: no earlier type has any, and no earlier place of the same type
(`first_dangling_reference`).
-/
namespace JsonBinding

/-- What a type points at in each of its places. A class has a place for every property and a union
one for every member, in the order in which they are listed. -/
inductive Node.PointsAt : Node → Nat → TypeId → Prop
  | items (target : TypeId) : PointsAt (.array target) 0 target
  | values (target : TypeId) : PointsAt (.map target) 0 target
  | property {c : ClassType} {place : Nat} {name : String} {property : Property} :
      c.properties.entries[place]? = some (name, property) →
      PointsAt (.classType c) place property.type
  | member {members : List TypeId} {place : Nat} {target : TypeId} :
      members[place]? = some target → PointsAt (.union members) place target

theorem getElem?_singleton_eq_some_iff {α : Type} {a b : α} {place : Nat} :
    [a][place]? = some b ↔ place = 0 ∧ a = b := by
  cases place <;> simp

theorem findSome?_eq_some_iff_first {α β : Type} {f : α → Option β} {entries : List α} {b : β} :
    entries.findSome? f = some b ↔
      ∃ (place : Nat) (a : α), entries[place]? = some a ∧ f a = some b ∧
        ∀ earlier < place, ∀ other, entries[earlier]? = some other → f other = none := by
  rw [List.findSome?_eq_some_iff]
  constructor
  · rintro ⟨before, a, after, rfl, hit, missed⟩
    refine ⟨before.length, a, ?_, hit, fun earlier less other listed => ?_⟩
    · rw [List.getElem?_append_right (Nat.le_refl _), Nat.sub_self, List.getElem?_cons_zero]
    · rw [List.getElem?_append_left less] at listed
      exact missed other (List.mem_of_getElem? listed)
  · rintro ⟨place, a, listed, hit, missed⟩
    obtain ⟨less, rfl⟩ := List.getElem?_eq_some_iff.mp listed
    refine ⟨entries.take place, _, entries.drop (place + 1), ?_, hit, fun other among => ?_⟩
    · rw [List.getElem_cons_drop, List.take_append_drop]
    · obtain ⟨earlier, bounded, rfl⟩ := List.mem_take_iff_getElem.mp among
      have less := Nat.lt_of_lt_of_le bounded (Nat.min_le_left _ _)
      exact missed earlier less _ (List.getElem?_eq_getElem _)

theorem Node.getElem?_references_eq_some_iff {node : Node} {place : Nat} {target : TypeId} :
    node.references[place]? = some target ↔ node.PointsAt place target := by
  constructor
  · intro listed
    cases node with
    | primitive p | enumType e | formatted f => cases listed
    | array items =>
      obtain ⟨rfl, rfl⟩ := getElem?_singleton_eq_some_iff.mp listed
      exact .items _
    | map values =>
      obtain ⟨rfl, rfl⟩ := getElem?_singleton_eq_some_iff.mp listed
      exact .values _
    | classType c =>
      rw [references, OrderedMap.values, List.map_map, List.getElem?_map,
        Option.map_eq_some_iff] at listed
      obtain ⟨⟨name, property⟩, stored, rfl⟩ := listed
      exact .property stored
    | union members => exact .member listed
  · rintro (target | target | stored | listed)
    · rfl
    · rfl
    · rw [references, OrderedMap.values, List.map_map, List.getElem?_map, stored]
      rfl
    · exact listed

namespace Graph

/-- All that a type points at is in the graph. -/
def ResolvesAt (g : Graph) (id : TypeId) : Prop :=
  ∀ node, g.get? id = some node → ∀ place target, node.PointsAt place target →
    target.toNat < g.size

/-- A reference that leads outside the graph while none before it does: no reference of an earlier
type, and none in an earlier place of the same type. -/
structure IsFirstDangling (g : Graph) (d : DanglingReference) : Prop where
  dangles : ∃ node place, g.get? d.id = some node ∧ node.PointsAt place d.target ∧
    g.size ≤ d.target.toNat ∧
    ∀ earlier < place, ∀ target, node.PointsAt earlier target → target.toNat < g.size
  first : ∀ id, id.toNat < d.id.toNat → g.ResolvesAt id

variable {g : Graph}

theorem danglingTarget?_eq_none_iff {node : Node} :
    g.danglingTarget? node = none ↔
      ∀ place target, node.PointsAt place target → target.toNat < g.size := by
  simp only [danglingTarget?, List.find?_eq_none, Option.isNone_iff_eq_none, get?_eq_none_iff,
    Nat.not_le, List.mem_iff_getElem?, Node.getElem?_references_eq_some_iff]
  exact ⟨fun inside place target points => inside target ⟨place, points⟩,
    fun inside target ⟨place, points⟩ => inside place target points⟩

theorem danglingTarget?_eq_some_iff {node : Node} {target : TypeId} :
    g.danglingTarget? node = some target ↔
      ∃ place, node.PointsAt place target ∧ g.size ≤ target.toNat ∧
        ∀ earlier < place, ∀ other, node.PointsAt earlier other → other.toNat < g.size := by
  have outside : ∀ other, (g.get? other).isNone = true ↔ g.size ≤ other.toNat := fun other => by
    rw [Option.isNone_iff_eq_none, get?_eq_none_iff]
  rw [danglingTarget?, List.find?_eq_findSome?_guard, findSome?_eq_some_iff_first]
  simp only [Option.guard_eq_some_iff, Option.guard_eq_none_iff, ← Bool.not_eq_true, outside,
    Nat.not_le, Node.getElem?_references_eq_some_iff]
  constructor
  · rintro ⟨place, _, points, ⟨rfl, dangles⟩, inside⟩
    exact ⟨place, points, dangles, inside⟩
  · rintro ⟨place, points, dangles, inside⟩
    exact ⟨place, target, points, ⟨rfl, dangles⟩, inside⟩

theorem getElem?_toList (g : Graph) (place : Nat) :
    g.toList[place]? = g.nodes[place]?.map fun node => (TypeId.ofNat place, node) := by
  rw [toList, List.getElem?_map, List.getElem?_zipIdx, Array.getElem?_toList, Option.map_map,
    Nat.zero_add]
  rfl

theorem getElem?_toList_eq_some_iff (addressable : g.size ≤ UInt32.size) {place : Nat}
    {id : TypeId} {node : Node} :
    g.toList[place]? = some (id, node) ↔ id.toNat = place ∧ g.get? id = some node := by
  rw [getElem?_toList, Option.map_eq_some_iff]
  constructor
  · rintro ⟨node, stored, ⟨⟩⟩
    have less : place < g.size := (Array.getElem?_eq_some_iff.mp stored).1
    have same := TypeId.toNat_ofNat (Nat.lt_of_lt_of_le less addressable)
    exact ⟨same, by rw [get?, same, stored]⟩
  · rintro ⟨rfl, found⟩
    have same : TypeId.ofNat id.toNat = id := congrArg TypeId.mk UInt32.ofNat_toNat
    exact ⟨node, found, by rw [same]⟩

theorem danglingReference?_eq_none_iff (addressable : g.size ≤ UInt32.size) :
    g.danglingReference? = none ↔ ∀ id, g.ResolvesAt id := by
  rw [danglingReference?, List.findSome?_eq_none_iff]
  simp only [List.mem_iff_getElem?, Prod.forall, getElem?_toList_eq_some_iff addressable,
    Option.map_eq_none_iff, danglingTarget?_eq_none_iff]
  exact ⟨fun resolves id node found => resolves id node ⟨id.toNat, rfl, found⟩,
    fun resolves id node ⟨_, _, found⟩ => resolves id node found⟩

theorem danglingReference?_eq_some_iff (addressable : g.size ≤ UInt32.size)
    (d : DanglingReference) : g.danglingReference? = some d ↔ g.IsFirstDangling d := by
  rw [danglingReference?, findSome?_eq_some_iff_first]
  simp only [Prod.exists, Prod.forall, getElem?_toList_eq_some_iff addressable,
    Option.map_eq_none_iff, Option.map_eq_some_iff, danglingTarget?_eq_none_iff]
  constructor
  · rintro ⟨_, id, node, ⟨rfl, found⟩, ⟨target, dangles, rfl⟩, resolves⟩
    obtain ⟨place, first⟩ := danglingTarget?_eq_some_iff.mp dangles
    exact ⟨⟨node, place, found, first⟩, fun id less node found =>
      resolves id.toNat less id node ⟨rfl, found⟩⟩
  · rintro ⟨⟨node, place, found, first⟩, resolves⟩
    refine ⟨d.id.toNat, d.id, node, ⟨rfl, found⟩, ⟨d.target, ?_, rfl⟩, ?_⟩
    · exact danglingTarget?_eq_some_iff.mpr ⟨place, first⟩
    · rintro _ less id node ⟨rfl, found⟩
      exact resolves id less node found

/-- Every node of a graph has an id as long as there are at most as many as ids. The check of such a
graph passes iff all references lead to types of the graph; otherwise it tells the first reference
that does not. -/
theorem first_dangling_reference (addressable : g.size ≤ UInt32.size) :
    (∀ (node : Node) place target,
      node.references[place]? = some target ↔ node.PointsAt place target) ∧
    (g.danglingReference? = none ↔ ∀ id, g.ResolvesAt id) ∧
    ∀ d, g.danglingReference? = some d ↔ g.IsFirstDangling d :=
  ⟨fun _ _ _ => Node.getElem?_references_eq_some_iff, danglingReference?_eq_none_iff addressable,
    danglingReference?_eq_some_iff addressable⟩

/-- A class with two properties whose types are missing, between an array and a union. The id one
past the end is missing as well. -/
def looseEnds : Graph :=
  ⟨#[.array ⟨3⟩, .primitive .string, .classType ⟨"Loose", .ofList [("a", ⟨"a", ⟨1⟩, false⟩),
    ("b", ⟨"b", ⟨4⟩, true⟩), ("c", ⟨"c", ⟨9⟩, false⟩)]⟩, .union [⟨9⟩, ⟨0⟩]]⟩

theorem looseEnds_first_dangling :
    looseEnds.size ≤ UInt32.size ∧ looseEnds.danglingReference? = some ⟨⟨2⟩, ⟨4⟩⟩ ∧
      looseEnds.IsFirstDangling ⟨⟨2⟩, ⟨4⟩⟩ ∧ ¬ (∀ id, looseEnds.ResolvesAt id) := by
  have addressable : looseEnds.size ≤ UInt32.size := by decide
  obtain ⟨-, sound, dangling⟩ := first_dangling_reference addressable
  have found : looseEnds.danglingReference? = some ⟨⟨2⟩, ⟨4⟩⟩ := rfl
  refine ⟨addressable, found, (dangling _).mp found, fun resolves => ?_⟩
  rw [sound.mpr resolves] at found
  cases found

end Graph

end JsonBinding
