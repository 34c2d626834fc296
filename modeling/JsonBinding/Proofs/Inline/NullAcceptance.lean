import JsonBinding.Proofs.Inline.Renderable
/-!
Which types null is a value of, and which of them an optional property leaves as they are. Null is a
value of null itself, of any, and of a union one of whose members has it, at whatever depth
(`Graph.AdmitsNull`). Hints and converters let it through for just these types
(`meetsNull_inline_iff`). `Graph.acceptsNull` looks at the members of a union only to see whether
one is null itself, so it misses the unions that have null from a member (`acceptsNull_iff`), and an
optional property of such a type is made optional once more (`null_counts_where_listed`).
-/
namespace JsonBinding

/-- A hint that `None` is a value of. -/
inductive TypeHint.AdmitsNone : TypeHint → Prop
  | any : AdmitsNone .any
  | none : AdmitsNone .none
  | optional (inner : TypeHint) : AdmitsNone (.optional inner)
  | union {members : List TypeHint} {member : TypeHint} : member ∈ members → AdmitsNone member →
      AdmitsNone (.union members)

/-- A converter that lets `None` through. -/
inductive Converter.AdmitsNone : Converter → Prop
  | identity : AdmitsNone .identity
  | fromNone : AdmitsNone (.function .fromNone)
  | fromOptional (inner : Converter) : AdmitsNone (.nested .fromOptional inner)
  | union {members : List Converter} {member : Converter} : member ∈ members → AdmitsNone member →
      AdmitsNone (.union members)

/-- A way to read written-out types that comes upon null at null itself, at any, at optional types
and in the members of a union, and nowhere else. -/
structure Inline.MeetsNull {β : Type} (tree : Inline → β) (admits : β → Prop) : Prop where
  primitive : ∀ p, admits (tree (.primitive p)) ↔ p = .null ∨ p = .any
  array : ∀ items, ¬ admits (tree (.array items))
  map : ∀ values, ¬ admits (tree (.map values))
  classRef : ∀ id name, ¬ admits (tree (.classRef id name))
  enumRef : ∀ id name, ¬ admits (tree (.enumRef id name))
  dateTime : ¬ admits (tree (.formatted .dateTime))
  single : ∀ only, admits (tree (.single only)) ↔ admits (tree only)
  nullable : ∀ inner, admits (tree (.nullable inner))
  union : ∀ members, admits (tree (.union members)) ↔ ∃ member ∈ members, admits (tree member)

namespace Inline

theorem meetsNull_hintTree (declared : TypeId → Bool) :
    MeetsNull (hintTree declared) TypeHint.AdmitsNone where
  primitive p := by
    cases p with
    | any => exact iff_of_true .any (.inr rfl)
    | null => exact iff_of_true .none (.inl rfl)
    | bool | integer | double | string => exact iff_of_false nofun (by decide)
  array items := nofun
  map values := nofun
  classRef id name := nofun
  enumRef id name := nofun
  dateTime := nofun
  single only := .rfl
  nullable inner := .optional _
  union members := by
    rw [hintTree, hintTrees_eq_map]
    constructor
    · rintro (_ | _ | _ | ⟨among, inside⟩)
      obtain ⟨member, inMembers, rfl⟩ := List.mem_map.mp among
      exact ⟨member, inMembers, inside⟩
    · rintro ⟨member, inMembers, inside⟩
      exact .union (List.mem_map_of_mem inMembers) inside

theorem meetsNull_converterTree (d : Direction) :
    MeetsNull (converterTree d) Converter.AdmitsNone where
  primitive p := by
    cases p with
    | any => exact iff_of_true .identity (.inr rfl)
    | null => exact iff_of_true .fromNone (.inl rfl)
    | bool | integer | double | string => exact iff_of_false nofun (by decide)
  array items := nofun
  map values := nofun
  classRef id name := by cases d <;> exact nofun
  enumRef id name := by cases d <;> exact nofun
  dateTime := by cases d <;> exact nofun
  single only := .rfl
  nullable inner := .fromOptional _
  union members := by
    rw [converterTree, converterTrees_eq_map]
    constructor
    · rintro (_ | _ | _ | ⟨among, inside⟩)
      obtain ⟨member, inMembers, rfl⟩ := List.mem_map.mp among
      exact ⟨member, inMembers, inside⟩
    · rintro ⟨member, inMembers, inside⟩
      exact .union (List.mem_map_of_mem inMembers) inside

end Inline

namespace Graph

/-- Null is a value of the type. -/
inductive AdmitsNull (g : Graph) : TypeId → Prop
  | null {id : TypeId} : g.get? id = some (.primitive .null) → AdmitsNull g id
  | any {id : TypeId} : g.get? id = some (.primitive .any) → AdmitsNull g id
  | member {id member : TypeId} {members : List TypeId} : g.get? id = some (.union members) →
      member ∈ members → AdmitsNull g member → AdmitsNull g id

/-- A union that does not list null itself. -/
def LacksNull (g : Graph) (id : TypeId) : Prop :=
  ∃ members, g.get? id = some (.union members) ∧ ∀ member ∈ members, g.isNull member = false

variable {g : Graph}

theorem admitsNull_iff (g : Graph) (id : TypeId) :
    g.AdmitsNull id ↔
      match g.get? id with
      | some (.primitive p) => p = .null ∨ p = .any
      | some (.union members) => ∃ member ∈ members, g.AdmitsNull member
      | _ => False := by
  constructor
  · rintro (found | found | ⟨found, among, inside⟩) <;> rw [found]
    · exact .inl rfl
    · exact .inr rfl
    · exact ⟨_, among, inside⟩
  · intro admits
    split at admits
    · next p found =>
      rcases admits with rfl | rfl
      · exact .null found
      · exact .any found
    · next members found =>
      obtain ⟨member, among, inside⟩ := admits
      exact .member found among inside
    · cases admits

theorem acceptsNull_iff (g : Graph) (id : TypeId) :
    g.acceptsNull id = true ↔ g.AdmitsNull id ∧ ¬ g.LacksNull id := by
  rw [admitsNull_iff, acceptsNull, LacksNull]
  cases found : g.get? id with
  | none => simp
  | some node =>
    cases node with
    | primitive p => cases p <;> simp
    | array items | map values | classType c | enumType e | formatted f => simp
    | union members =>
      simp only [List.any_eq_true, Option.some.injEq, Node.union.injEq, exists_eq_left', not_forall,
        Bool.not_eq_false, exists_prop]
      constructor
      · rintro ⟨null, among, isNull⟩
        exact ⟨⟨null, among, .null (get?_of_isNull isNull)⟩, null, among, isNull⟩
      · rintro ⟨-, listed⟩
        exact listed

theorem exists_part_iff {members : List TypeId} {admits admitted : TypeId → Prop}
    (other : ∀ inner, g.unionShape members ≠ .nullable inner)
    (same : ∀ member ∈ members, (admits member ↔ admitted member)) :
    (∃ part ∈ (g.unionShape members).parts, admits part) ↔ ∃ member ∈ members, admitted member := by
  constructor
  · rintro ⟨part, written, inside⟩
    have among := g.parts_unionShape_subset members written
    exact ⟨part, among, (same part among).mp inside⟩
  · rintro ⟨member, among, inside⟩
    rcases mem_parts_or_nullable (g := g) among with written | ⟨-, inner, shape⟩
    · exact ⟨member, written, (same member among).mpr inside⟩
    · exact absurd shape (other inner)

theorem meetsNull_inline_iff {β : Type} {tree : Inline → β} {admits : β → Prop}
    (meets : Inline.MeetsNull tree admits) (acyclic : g.InlineAcyclic) {id : TypeId}
    (renderable : g.Renderable id) : admits (tree (g.inline id)) ↔ g.AdmitsNull id := by
  induction renderable with
  | primitive found =>
    rw [admitsNull_iff, inline_eq acyclic, layer, found]
    exact meets.primitive _
  | classType found =>
    rw [admitsNull_iff, inline_eq acyclic, layer, found]
    exact iff_of_false (meets.classRef _ _) not_false
  | enumType found =>
    rw [admitsNull_iff, inline_eq acyclic, layer, found]
    exact iff_of_false (meets.enumRef _ _) not_false
  | dateTime found =>
    rw [admitsNull_iff, inline_eq acyclic, layer, found]
    exact iff_of_false meets.dateTime not_false
  | array found =>
    rw [admitsNull_iff, inline_eq acyclic, layer, found]
    exact iff_of_false (meets.array _) not_false
  | map found =>
    rw [admitsNull_iff, inline_eq acyclic, layer, found]
    exact iff_of_false (meets.map _) not_false
  | @union id members found nonempty _ ih =>
    rw [admitsNull_iff, inline_eq acyclic, layer, found]
    dsimp only
    cases shape : g.unionShape members with
    | empty => exact absurd ((g.unionShape_eq_empty_iff members).mp shape) nonempty
    | single only =>
      have other : ∀ inner, g.unionShape members ≠ .nullable inner := by simp [shape]
      have parts := exists_part_iff other ih
      rw [meets.single, ← parts, shape]
      simp [UnionShape.parts]
    | nullable inner =>
      obtain ⟨null, among, isNull⟩ := exists_isNull_of_nullable shape
      exact iff_of_true (meets.nullable _) ⟨null, among, .null (get?_of_isNull isNull)⟩
    | general ordered =>
      have other : ∀ inner, g.unionShape members ≠ .nullable inner := by simp [shape]
      have parts := exists_part_iff other ih
      rw [meets.union, ← parts, shape]
      simp [UnionShape.parts]

/-- The types that accept null are those that have it as a value, but for the unions that have it
only from members other than null itself. Without inline cycles, the hint and the converters of a
type let null through iff the type has it. So a property that may be missing is written and
converted as its type where the type accepts null; in all other cases it is made optional, although
its hint and its converters may let null through without that. -/
theorem null_counts_where_listed (acyclic : g.InlineAcyclic) :
    (∀ id, g.acceptsNull id = true ↔ g.AdmitsNull id ∧ ¬ g.LacksNull id) ∧
      ∀ declared d key id l hint converter, (g.hint declared id l).outcome = .ok hint →
        (g.converter d id l).outcome = .ok converter →
        (hint.AdmitsNone ↔ g.AdmitsNull id) ∧ (converter.AdmitsNone ↔ g.AdmitsNull id) ∧
          (g.AdmitsNull id ∧ ¬ g.LacksNull id →
            (g.propertyHint declared ⟨key, id, true⟩ l).outcome = .ok hint ∧
              (g.propertyConverter d ⟨key, id, true⟩ l).outcome = .ok converter) ∧
          (¬ (g.AdmitsNull id ∧ ¬ g.LacksNull id) →
            (g.propertyHint declared ⟨key, id, true⟩ l).outcome = .ok (.optional hint) ∧
              (g.propertyConverter d ⟨key, id, true⟩ l).outcome =
                .ok (.nested .fromOptional converter)) := by
  refine ⟨g.acceptsNull_iff, ?_⟩
  intro declared d key id l hint converter hinted converted
  rw [outcome_hint] at hinted
  rw [outcome_converter] at converted
  obtain ⟨sound, rfl⟩ := eq_of_faultOr_eq_ok hinted
  obtain ⟨-, rfl⟩ := eq_of_faultOr_eq_ok converted
  have renderable := (fault?_eq_none_iff_renderable acyclic id l).mp sound
  refine ⟨meetsNull_inline_iff (Inline.meetsNull_hintTree declared) acyclic renderable,
    meetsNull_inline_iff (Inline.meetsNull_converterTree d) acyclic renderable, ?_, ?_⟩
  · intro listed
    have accepts := (g.acceptsNull_iff id).mpr listed
    simp only [outcome_propertyHint, outcome_propertyConverter, propertyHintTree,
      propertyConverterTree, wraps, sound, accepts]
    exact ⟨rfl, rfl⟩
  · intro unlisted
    have rejects : g.acceptsNull id = false := by
      rw [← Bool.not_eq_true, g.acceptsNull_iff]
      exact unlisted
    simp only [outcome_propertyHint, outcome_propertyConverter, propertyHintTree,
      propertyConverterTree, wraps, sound, rejects]
    exact ⟨rfl, rfl⟩

/-- A union with any among its members, and one whose member is a union with null. -/
def hiddenNulls : Graph :=
  ⟨#[.union [⟨2⟩, ⟨3⟩], .union [⟨3⟩, ⟨4⟩], .primitive .any, .primitive .integer, .union [⟨5⟩, ⟨6⟩],
    .primitive .null, .primitive .string]⟩

theorem hiddenNulls_counted :
    hiddenNulls.InlineAcyclic ∧
      (hiddenNulls.hint (fun _ => false) ⟨1⟩ ⟨.entryPoint "Test", []⟩).outcome =
        .ok (.union [.int, .optional .str]) ∧
      ¬ (hiddenNulls.AdmitsNull ⟨1⟩ ∧ ¬ hiddenNulls.LacksNull ⟨1⟩) ∧
      (hiddenNulls.propertyHint (fun _ => false) ⟨"a", ⟨1⟩, true⟩
        ⟨.entryPoint "Test", []⟩).outcome = .ok (.optional (.union [.int, .optional .str])) ∧
      (hiddenNulls.AdmitsNull ⟨4⟩ ∧ ¬ hiddenNulls.LacksNull ⟨4⟩) ∧
      (hiddenNulls.propertyHint (fun _ => false) ⟨"a", ⟨4⟩, true⟩
        ⟨.entryPoint "Test", []⟩).outcome = .ok (.optional .str) := by
  have acyclic : hiddenNulls.InlineAcyclic := inlineAcyclic_of_ascending (by decide)
  obtain ⟨accepted, written⟩ := null_counts_where_listed acyclic
  have hidden : ¬ (hiddenNulls.AdmitsNull ⟨1⟩ ∧ ¬ hiddenNulls.LacksNull ⟨1⟩) := by
    rw [← accepted]
    decide
  have listed : hiddenNulls.AdmitsNull ⟨4⟩ ∧ ¬ hiddenNulls.LacksNull ⟨4⟩ := (accepted ⟨4⟩).mp rfl
  obtain ⟨-, -, -, wrapped⟩ :=
    written (fun _ => false) .fromJson "a" ⟨1⟩ ⟨.entryPoint "Test", []⟩ _ _ rfl rfl
  obtain ⟨-, -, plain, -⟩ :=
    written (fun _ => false) .fromJson "a" ⟨4⟩ ⟨.entryPoint "Test", []⟩ _ _ rfl rfl
  exact ⟨acyclic, rfl, hidden, (wrapped hidden).1, listed, (plain listed).1⟩

theorem hiddenNulls_not_accepted :
    hiddenNulls.InlineAcyclic ∧
      (hiddenNulls.AdmitsNull ⟨0⟩ ∧ hiddenNulls.acceptsNull ⟨0⟩ = false) ∧
      hiddenNulls.AdmitsNull ⟨1⟩ ∧ hiddenNulls.acceptsNull ⟨1⟩ = false := by
  have any : hiddenNulls.AdmitsNull ⟨0⟩ := .member rfl List.mem_cons_self (.any rfl)
  have listed : hiddenNulls.AdmitsNull ⟨4⟩ := .member rfl List.mem_cons_self (.null rfl)
  have nested : hiddenNulls.AdmitsNull ⟨1⟩ :=
    .member rfl (List.mem_cons_of_mem _ List.mem_cons_self) listed
  exact ⟨inlineAcyclic_of_ascending (by decide), ⟨any, rfl⟩, nested, rfl⟩

end Graph

end JsonBinding
