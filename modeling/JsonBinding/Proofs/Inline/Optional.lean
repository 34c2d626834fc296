import JsonBinding.Proofs.Inline.Outcome
/-!
Properties that may be missing, and properties whose type is a union with null. A property is
optional if it may be missing and its type does not accept null as it is; a union of null and one
other type is optional by its shape. Both are written and converted alike
(`optional_is_union_with_null`). The places at which they are walked differ, but the place of a walk
shows in the place of its fault only (`Inline.alike_hint`, `Inline.alike_convert`).
-/
namespace JsonBinding

/-- Faults of one kind and cause, whatever their places. -/
inductive Fault.SameKind : Fault → Fault → Prop
  | unsupportedFormat (f : StringFormat) (l l' : Location) :
      SameKind (.unsupportedFormat f l) (.unsupportedFormat f l')
  | undeclarable (kind : Kind) (l l' : Location) :
      SameKind (.undeclarable kind l) (.undeclarable kind l')
  | unknownType (id : TypeId) (l l' : Location) : SameKind (.unknownType id l) (.unknownType id l')
  | emptyUnion (l l' : Location) : SameKind (.emptyUnion l) (.emptyUnion l')
  | alreadyDeclared (name : String) : SameKind (.alreadyDeclared name) (.alreadyDeclared name)
  | endlessType (id : TypeId) (l l' : Location) : SameKind (.endlessType id l) (.endlessType id l')

theorem Fault.SameKind.refl (fault : Fault) : fault.SameKind fault := by
  cases fault <;> constructor

namespace Recorded

variable {ω α β : Type}

/-- The same record, and then the same value or faults of the same kind. -/
inductive Alike : Recorded ω α → Recorded ω α → Prop
  | ok (record : List ω) (value : α) : Alike ⟨record, .ok value⟩ ⟨record, .ok value⟩
  | error (record : List ω) {fault other : Fault} : fault.SameKind other →
      Alike ⟨record, .error fault⟩ ⟨record, .error other⟩

theorem Alike.refl (x : Recorded ω α) : x.Alike x := by
  obtain ⟨record, outcome⟩ := x
  cases outcome with
  | ok value => exact .ok record value
  | error fault => exact .error record (.refl fault)

theorem alike_fail {fault other : Fault} (same : fault.SameKind other) :
    (fail fault : Recorded ω α).Alike (fail other) :=
  .error [] same

theorem Alike.bind {x y : Recorded ω α} {f h : α → Recorded ω β} (first : x.Alike y)
    (rest : ∀ value, (f value).Alike (h value)) : (x >>= f).Alike (y >>= h) := by
  cases first with
  | error record same => exact .error record same
  | ok record value =>
    have next := rest value
    change Alike ⟨record ++ (f value).record, (f value).outcome⟩
      ⟨record ++ (h value).record, (h value).outcome⟩
    generalize f value = a, h value = b at next
    cases next with
    | ok more result => exact .ok _ result
    | error more same => exact .error _ same

theorem Alike.mapM {f h : α → Recorded ω β} {entries : List α}
    (each : ∀ a ∈ entries, (f a).Alike (h a)) : (entries.mapM f).Alike (entries.mapM h) := by
  induction entries with
  | nil => exact .refl _
  | cons entry rest ih =>
    have first := each entry List.mem_cons_self
    have others := ih fun other among => each other (List.mem_cons_of_mem _ among)
    rw [List.mapM_cons, List.mapM_cons]
    exact first.bind fun _ => others.bind fun _ => .refl _

end Recorded

namespace Inline

open Recorded

/-- Where a type is walked shows in the place of a fault, and in nothing else. -/
theorem alike_hint (declared : TypeId → Bool) (t : Inline) (l l' : Location) :
    (t.hint declared l).Alike (t.hint declared l') := by
  induction t using Inline.induction generalizing l l' with
  | primitive p => exact .refl _
  | array items ih => exact (Alike.refl _).bind fun _ => (ih l.item l'.item).bind fun _ => .refl _
  | map values ih => exact (Alike.refl _).bind fun _ => (ih l.value l'.value).bind fun _ => .refl _
  | classRef id name | enumRef id name => exact .refl _
  | formatted f =>
    cases f with
    | dateTime => exact .refl _
    | date | time | uuid | uri | integerString | boolString =>
      exact alike_fail (.unsupportedFormat _ l l')
  | single only ih => exact ih (l.member 0) (l'.member 0)
  | nullable inner ih =>
    exact (Alike.refl _).bind fun _ => (ih (l.member 1) (l'.member 1)).bind fun _ => .refl _
  | union members ih =>
    rw [hint, hint, hintMembers_eq_mapM, hintMembers_eq_mapM]
    refine (Alike.refl _).bind fun _ => (Alike.mapM ?_).bind fun _ => .refl _
    rintro ⟨member, i⟩ among
    exact ih member (List.fst_mem_of_mem_zipIdx among) (l.member i) (l'.member i)
  | emptyUnion => exact alike_fail (.emptyUnion l l')
  | missing id => exact alike_fail (.unknownType id l l')
  | endless id => exact alike_fail (.endlessType id l l')

theorem alike_convert (d : Direction) (t : Inline) (l l' : Location) :
    (t.convert d l).Alike (t.convert d l') := by
  induction t using Inline.induction generalizing l l' with
  | primitive p => exact .refl _
  | array items ih => exact (ih l.item l'.item).bind fun _ => .refl _
  | map values ih => exact (ih l.value l'.value).bind fun _ => .refl _
  | classRef id name | enumRef id name => exact .refl _
  | formatted f =>
    cases f with
    | dateTime => exact .refl _
    | date | time | uuid | uri | integerString | boolString =>
      exact alike_fail (.unsupportedFormat _ l l')
  | single only ih => exact ih (l.member 0) (l'.member 0)
  | nullable inner ih => exact (ih (l.member 1) (l'.member 1)).bind fun _ => .refl _
  | union members ih =>
    rw [convert, convert, convertMembers_eq_mapM, convertMembers_eq_mapM]
    refine (Alike.refl _).bind fun _ => (Alike.mapM ?_).bind fun _ => .refl _
    rintro ⟨member, i⟩ among
    exact ih member (List.fst_mem_of_mem_zipIdx among) (l.member i) (l'.member i)
  | emptyUnion => exact alike_fail (.emptyUnion l l')
  | missing id => exact alike_fail (.unknownType id l l')
  | endless id => exact alike_fail (.endlessType id l l')

end Inline

namespace Graph

variable {g : Graph}

theorem alike_propertyHint (declared : TypeId → Bool) (property : Property) (l l' : Location) :
    (g.propertyHint declared property l).Alike (g.propertyHint declared property l') := by
  have plain := (g.inline property.type).alike_hint declared l l'
  unfold propertyHint
  split
  · exact (Recorded.Alike.refl _).bind fun _ => plain.bind fun _ => .refl _
  · exact plain

theorem alike_propertyConverter (d : Direction) (property : Property) (l l' : Location) :
    (g.propertyConverter d property l).Alike (g.propertyConverter d property l') := by
  have plain := (g.inline property.type).alike_convert d l l'
  exact plain.bind fun _ => .refl _

theorem acceptsNull_of_isNull {id : TypeId} (null : g.isNull id = true) :
    g.acceptsNull id = true := by
  unfold acceptsNull
  rw [eq_of_beq null]

/-- A union of null and one other type, in whichever order. -/
def IsNullableOf (g : Graph) (union inner : TypeId) : Prop :=
  ∃ null members, g.isNull null = true ∧ g.get? union = some (.union members) ∧
    [null, inner].Perm members

theorem inline_of_isNullableOf (acyclic : g.InlineAcyclic) {union inner : TypeId}
    (nullable : g.IsNullableOf union inner) (other : g.isNull inner = false) :
    g.inline union = .nullable (g.inline inner) := by
  obtain ⟨null, members, isNull, found, pair⟩ := nullable
  rw [inline_eq acyclic, layer, found]
  dsimp only
  rw [unionShape_of_isNullPair ⟨null, isNull, other, pair⟩]

/-- Without inline cycles, a property that may be missing is written and converted like one whose
type is the union of null and its own type, but that a fault inside is reported one step further for
the union. A property whose type accepts null as it is may be missing or not: it is written and
converted in one way. The keys of properties make no difference. -/
theorem optional_is_union_with_null (acyclic : g.InlineAcyclic) (key other : String)
    (declared : TypeId → Bool) (d : Direction) :
    (∀ inner union, g.acceptsNull inner = false → g.IsNullableOf union inner →
      (∀ l, g.propertyHint declared ⟨other, union, false⟩ l =
        g.propertyHint declared ⟨key, inner, true⟩ (l.member 1)) ∧
      (∀ l, g.propertyConverter d ⟨other, union, false⟩ l =
        g.propertyConverter d ⟨key, inner, true⟩ (l.member 1)) ∧
      (∀ l l', (g.propertyHint declared ⟨key, inner, true⟩ l).Alike
        (g.propertyHint declared ⟨other, union, false⟩ l')) ∧
      ∀ l l', (g.propertyConverter d ⟨key, inner, true⟩ l).Alike
        (g.propertyConverter d ⟨other, union, false⟩ l')) ∧
    ∀ inner, g.acceptsNull inner = true → ∀ l,
      g.propertyHint declared ⟨key, inner, true⟩ l =
        g.propertyHint declared ⟨other, inner, false⟩ l ∧
      g.propertyConverter d ⟨key, inner, true⟩ l =
        g.propertyConverter d ⟨other, inner, false⟩ l := by
  constructor
  · intro inner union plain nullable
    have notNull : g.isNull inner = false := by
      rw [← Bool.not_eq_true]
      intro null
      rw [acceptsNull_of_isNull null] at plain
      cases plain
    have written := inline_of_isNullableOf acyclic nullable notNull
    have hints : ∀ l, g.propertyHint declared ⟨other, union, false⟩ l =
        g.propertyHint declared ⟨key, inner, true⟩ (l.member 1) := by
      intro l
      simp only [propertyHint, hint, written, plain, Bool.false_and, Bool.true_and, Bool.not_false,
        Bool.false_eq_true, if_true, if_false, Inline.hint]
    have converters : ∀ l, g.propertyConverter d ⟨other, union, false⟩ l =
        g.propertyConverter d ⟨key, inner, true⟩ (l.member 1) := by
      intro l
      simp only [propertyConverter, converter, written, plain, Bool.false_and, Bool.true_and,
        Bool.not_false, Bool.false_eq_true, if_true, if_false, Inline.convert, bind_pure]
    refine ⟨hints, converters, fun l l' => ?_, fun l l' => ?_⟩
    · rw [hints]
      exact alike_propertyHint declared _ l (l'.member 1)
    · rw [converters]
      exact alike_propertyConverter d _ l (l'.member 1)
  · intro inner accepts l
    simp only [propertyHint, propertyConverter, accepts, Bool.not_true, Bool.and_false, and_self]

/-- A union with null around another union, one around a type that is missing, and a union of three
that accepts null as it is. -/
def nullableTypes : Graph :=
  ⟨#[.union [⟨3⟩, ⟨6⟩], .union [⟨6⟩, ⟨9⟩], .union [⟨5⟩, ⟨6⟩, ⟨7⟩], .union [⟨4⟩, ⟨5⟩], .array ⟨5⟩,
    .primitive .integer, .primitive .null, .primitive .string]⟩

theorem nullableTypes_alike :
    nullableTypes.InlineAcyclic ∧
      (nullableTypes.acceptsNull ⟨3⟩ = false ∧ nullableTypes.IsNullableOf ⟨0⟩ ⟨3⟩ ∧
        (nullableTypes.propertyHint (fun _ => false) ⟨"b", ⟨0⟩, false⟩
          ⟨.entryPoint "Test", []⟩).outcome = .ok (.optional (.union [.int, .list .int])) ∧
        (nullableTypes.propertyHint (fun _ => false) ⟨"a", ⟨3⟩, true⟩
          ⟨.entryPoint "Test", []⟩).Alike (nullableTypes.propertyHint (fun _ => false)
          ⟨"b", ⟨0⟩, false⟩ ⟨.entryPoint "Test", []⟩)) ∧
      (nullableTypes.acceptsNull ⟨9⟩ = false ∧ nullableTypes.IsNullableOf ⟨1⟩ ⟨9⟩ ∧
        (nullableTypes.propertyConverter .toJson ⟨"b", ⟨1⟩, false⟩
          ⟨.entryPoint "Test", []⟩).outcome =
          .error (.unknownType ⟨9⟩ ⟨.entryPoint "Test", [.member 1]⟩) ∧
        (nullableTypes.propertyConverter .toJson ⟨"a", ⟨9⟩, true⟩
          ⟨.entryPoint "Test", []⟩).Alike (nullableTypes.propertyConverter .toJson
          ⟨"b", ⟨1⟩, false⟩ ⟨.entryPoint "Test", []⟩)) ∧
      nullableTypes.acceptsNull ⟨2⟩ = true ∧
      nullableTypes.propertyHint (fun _ => false) ⟨"a", ⟨2⟩, true⟩ ⟨.entryPoint "Test", []⟩ =
        nullableTypes.propertyHint (fun _ => false) ⟨"b", ⟨2⟩, false⟩
          ⟨.entryPoint "Test", []⟩ := by
  have acyclic : nullableTypes.InlineAcyclic := inlineAcyclic_of_ascending (by decide)
  have list : nullableTypes.IsNullableOf ⟨0⟩ ⟨3⟩ := ⟨⟨6⟩, _, rfl, rfl, by decide⟩
  have missing : nullableTypes.IsNullableOf ⟨1⟩ ⟨9⟩ := ⟨⟨6⟩, _, rfl, rfl, by decide⟩
  obtain ⟨pairs, accepting⟩ :=
    optional_is_union_with_null acyclic "a" "b" (fun _ => false) .toJson
  obtain ⟨-, -, hints, -⟩ := pairs ⟨3⟩ ⟨0⟩ rfl list
  obtain ⟨-, -, -, converters⟩ := pairs ⟨9⟩ ⟨1⟩ rfl missing
  exact ⟨acyclic, ⟨rfl, list, rfl, hints _ _⟩, ⟨rfl, missing, rfl, converters _ _⟩, rfl,
    (accepting ⟨2⟩ rfl _).1⟩

end Graph

end JsonBinding
