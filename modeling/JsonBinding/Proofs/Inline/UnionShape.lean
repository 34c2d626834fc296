import JsonBinding.Converter
import JsonBinding.Proofs.Inline.Acyclic
import JsonBinding.TypeHint
/-!
Two views of a union. The graph looks at a union as it lists its members and tells whether it is
null and one other type (`Graph.nullableInner?`); hints and converters look at the members in order
and go by their shape (`Graph.unionShape`). Both can be told from the members in whichever order
they are listed, so the two views agree on every union, whether or not its members are in the graph
(`shape_agrees`).
-/
namespace JsonBinding.Graph

variable {g : Graph} {id : TypeId} {members : List TypeId}

theorem nullableInner?_eq_some_iff (found : g.get? id = some (.union members)) {inner : TypeId} :
    g.nullableInner? id = some inner ↔ g.IsNullPair members inner := by
  unfold nullableInner?
  rw [found]
  constructor
  · intro pair
    split at pair
    · next a b listed =>
      cases listed
      split at pair
      · next null other =>
        cases pair
        exact ⟨a, null, other, .refl _⟩
      · next other null =>
        cases pair
        exact ⟨b, null, other, .swap _ _ _⟩
      · cases pair
    · cases pair
  · rintro ⟨null, isNull, other, pair⟩
    rcases List.pair_perm.mp pair with rfl | rfl
    · simp only [isNull, other]
    · simp only [isNull, other]

theorem acceptsNull_of_isNullPair (found : g.get? id = some (.union members)) {inner : TypeId}
    (pair : g.IsNullPair members inner) : g.acceptsNull id = true := by
  obtain ⟨null, isNull, -, perm⟩ := pair
  unfold acceptsNull
  rw [found]
  exact List.any_eq_true.mpr ⟨null, perm.subset List.mem_cons_self, isNull⟩

/-- A part of a type as a walk through the type writes it out, which is one step less deep. -/
def writtenPart (g : Graph) (part : TypeId) : Inline :=
  g.expand g.size part

/-- The type is hinted and converted as an optional one around another type. -/
structure WritesOptional (g : Graph) (id inner : TypeId) : Prop where
  hint : ∀ declared l, g.hint declared id l = do
    Recorded.note .optional
    return .optional (← (g.writtenPart inner).hint declared (l.member 1))
  converter : ∀ d l, g.converter d id l = do
    Recorded.nested .fromOptional (← (g.writtenPart inner).convert d (l.member 1))

/-- The type is hinted and converted as a union of the given members. -/
structure WritesUnion (g : Graph) (id : TypeId) (ordered : List TypeId) : Prop where
  hint : ∀ declared l, g.hint declared id l = do
    Recorded.note .union
    return .union (← Inline.hintMembers declared (ordered.map g.writtenPart) l 0)
  converter : ∀ d l, g.converter d id l = do
    Recorded.note .fromUnion
    return .union (← Inline.convertMembers d (ordered.map g.writtenPart) l 0)

theorem inline_eq_layer (g : Graph) (id : TypeId) : g.inline id = g.layer g.writtenPart id := rfl

theorem writesOptional_of_shape (found : g.get? id = some (.union members)) {inner : TypeId}
    (shape : g.unionShape members = .nullable inner) : g.WritesOptional id inner := by
  have written : g.inline id = .nullable (g.writtenPart inner) := by
    simp only [inline_eq_layer, layer, found, shape]
  constructor
  · intro declared l
    rw [hint, written]
    rfl
  · intro d l
    rw [converter, written]
    rfl

theorem writesUnion_of_shape (found : g.get? id = some (.union members)) {ordered : List TypeId}
    (shape : g.unionShape members = .general ordered) : g.WritesUnion id ordered := by
  have written : g.inline id = .union (ordered.map g.writtenPart) := by
    simp only [inline_eq_layer, layer, found, shape]
  constructor
  · intro declared l
    rw [hint, written]
    rfl
  · intro d l
    rw [converter, written]
    rfl

/-- The shape of a union says of it what the graph says. -/
structure ShapeAgrees (g : Graph) (id : TypeId) (members : List TypeId) : Prop where
  nullable : ∀ inner, g.unionShape members = .nullable inner ↔ g.nullableInner? id = some inner
  accepts : ∀ inner, g.nullableInner? id = some inner → g.acceptsNull id = true
  empty : g.unionShape members = .empty ↔ members = []
  single : ∀ only, g.unionShape members = .single only ↔ members = [only]
  /-- All other unions are general. -/
  general : ∀ ordered, g.unionShape members = .general ordered ↔
    ordered = g.memberOrder members ∧ 2 ≤ members.length ∧ g.nullableInner? id = none
  permuted : ∀ ordered, g.unionShape members = .general ordered →
    ordered.Perm members ∧ 2 ≤ ordered.length
  /-- Null and one other type are never written as a union. -/
  optional : ∀ null inner, [null, inner].Perm members → g.isNull null = true →
    g.isNull inner = false → g.WritesOptional id inner
  /-- Two nulls, or two types neither of which is null, always are. -/
  alike : ∀ first second, [first, second].Perm members → g.isNull first = g.isNull second →
    g.WritesUnion id (g.memberOrder members)

theorem not_isNullPair_of_alike {first second : TypeId} (pair : [first, second].Perm members)
    (alike : g.isNull first = g.isNull second) (inner : TypeId) :
    ¬ g.IsNullPair members inner := by
  rintro ⟨null, isNull, other, perm⟩
  rcases List.pair_perm.mp (perm.trans pair.symm) with same | same
  · cases same
    rw [isNull, other] at alike
    cases alike
  · cases same
    rw [isNull, other] at alike
    cases alike

theorem nullableInner?_eq_none_iff (found : g.get? id = some (.union members)) :
    g.nullableInner? id = none ↔ ∀ inner, ¬ g.IsNullPair members inner := by
  simp only [Option.eq_none_iff_forall_ne_some, ne_eq, nullableInner?_eq_some_iff found]

/-- On every union the shape by which it is written agrees with what the graph tells of it. Null and
one other type make an optional type whichever is listed first, all other unions of two or more
members keep them all, and which of the two it is shows in hints and in converters alike. -/
theorem shape_agrees (found : g.get? id = some (.union members)) : g.ShapeAgrees id members where
  nullable inner := by
    rw [nullableInner?_eq_some_iff found, unionShape_eq_iff]
    exact ⟨fun | .nullable pair => pair, .nullable⟩
  accepts inner pair := acceptsNull_of_isNullPair found ((nullableInner?_eq_some_iff found).mp pair)
  empty := g.unionShape_eq_empty_iff members
  single only := by
    rw [unionShape_eq_iff]
    exact ⟨fun | .single one => one, .single⟩
  general ordered := by
    rw [unionShape_eq_iff, nullableInner?_eq_none_iff found]
    constructor
    · rintro (_ | _ | _ | ⟨long, unpaired⟩)
      exact ⟨rfl, long, unpaired⟩
    · rintro ⟨rfl, long, unpaired⟩
      exact .general long unpaired
  permuted ordered shape := by
    have perm := g.memberOrder_perm members
    obtain _ | _ | _ | ⟨long, _⟩ := unionShape_eq_iff.mp shape
    exact ⟨perm, perm.length_eq ▸ long⟩
  optional null inner perm isNull other :=
    writesOptional_of_shape found (unionShape_of_isNullPair ⟨null, isNull, other, perm⟩)
  alike first second perm same :=
    writesUnion_of_shape found (unionShape_eq_iff.mpr
      (.general perm.length_eq.le (not_isNullPair_of_alike perm same)))

/-- A union of a type that is missing and null, and one of null with itself. -/
def pairUnions : Graph :=
  ⟨#[.union [⟨9⟩, ⟨2⟩], .union [⟨2⟩, ⟨2⟩], .primitive .null]⟩

theorem pairUnions_agree :
    (pairUnions.get? ⟨0⟩ = some (.union [⟨9⟩, ⟨2⟩]) ∧
      pairUnions.unionShape [⟨9⟩, ⟨2⟩] = .nullable ⟨9⟩ ∧
      pairUnions.nullableInner? ⟨0⟩ = some ⟨9⟩ ∧ pairUnions.acceptsNull ⟨0⟩ = true ∧
      pairUnions.WritesOptional ⟨0⟩ ⟨9⟩) ∧
    pairUnions.get? ⟨1⟩ = some (.union [⟨2⟩, ⟨2⟩]) ∧ pairUnions.nullableInner? ⟨1⟩ = none ∧
      pairUnions.unionShape [⟨2⟩, ⟨2⟩] = .general [⟨2⟩, ⟨2⟩] ∧
      pairUnions.WritesUnion ⟨1⟩ [⟨2⟩, ⟨2⟩] := by
  have optional : pairUnions.get? ⟨0⟩ = some (.union [⟨9⟩, ⟨2⟩]) := rfl
  have nulls : pairUnions.get? ⟨1⟩ = some (.union [⟨2⟩, ⟨2⟩]) := rfl
  have first := shape_agrees optional
  have second := shape_agrees nulls
  have inner : pairUnions.nullableInner? ⟨0⟩ = some ⟨9⟩ := rfl
  exact ⟨⟨optional, (first.nullable _).mpr inner, inner, first.accepts _ inner,
      first.optional ⟨2⟩ ⟨9⟩ (.swap _ _ _) rfl rfl⟩,
    nulls, rfl, (second.general _).mpr ⟨rfl, Nat.le_refl 2, rfl⟩,
    second.alike ⟨2⟩ ⟨2⟩ (.refl _) rfl⟩

end JsonBinding.Graph
