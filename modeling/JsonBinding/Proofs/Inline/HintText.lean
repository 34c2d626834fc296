import JsonBinding.Proofs.Inline.Outcome
/-!
The text of a hint, read off the converter from JSON. Every support function stands for one form of
hint, a class or an enum for its name, and a union for its members in their places (`HasHint`). The
hint of every type and property is the one its converter stands for (`hint_text_of_decoder`), so the
two cannot drift apart.
-/
namespace JsonBinding

/-- The hint that a converter from JSON stands for; names may or may not be quoted. -/
inductive Converter.HasHint : Converter → String → Prop
  | identity : HasHint .identity "Any"
  | fromNone : HasHint (.function .fromNone) "None"
  | fromBool : HasHint (.function .fromBool) "bool"
  | fromInt : HasHint (.function .fromInt) "int"
  | fromFloat : HasHint (.function .fromFloat) "float"
  | fromStr : HasHint (.function .fromStr) "str"
  | fromDatetime : HasHint (.function .fromDatetime) "datetime"
  | fromList {inner : Converter} {text : String} :
      HasHint inner text → HasHint (.nested .fromList inner) ("List[" ++ text ++ "]")
  | fromDict {inner : Converter} {text : String} :
      HasHint inner text → HasHint (.nested .fromDict inner) ("Dict[str, " ++ text ++ "]")
  | fromOptional {inner : Converter} {text : String} :
      HasHint inner text → HasHint (.nested .fromOptional inner) ("Optional[" ++ text ++ "]")
  | union {members : List Converter} {texts : List String} : List.Forall₂ HasHint members texts →
      HasHint (.union members) ("Union[" ++ ", ".intercalate texts ++ "]")
  | bareClass (name : String) : HasHint (.classFromDict name) name
  | quotedClass (name : String) : HasHint (.classFromDict name) ("'" ++ name ++ "'")
  | bareEnum (name : String) : HasHint (.enumValue name) name
  | quotedEnum (name : String) : HasHint (.enumValue name) ("'" ++ name ++ "'")

theorem Primitive.hasHint_converterTree (p : Primitive) :
    p.converterTree.HasHint p.hintTree.text := by
  cases p with
  | any => exact .identity
  | null => exact .fromNone
  | bool => exact .fromBool
  | integer => exact .fromInt
  | double => exact .fromFloat
  | string => exact .fromStr

namespace Inline

theorem hasHint_converterTrees {declared : TypeId → Bool} {members : List Inline}
    (each : ∀ member ∈ members,
      (member.converterTree .fromJson).HasHint (member.hintTree declared).text) :
    List.Forall₂ Converter.HasHint (converterTrees .fromJson members)
      (TypeHint.texts (hintTrees declared members)) := by
  induction members with
  | nil => exact .nil
  | cons member rest ih =>
    have first := each member List.mem_cons_self
    have others := ih fun other h => each other (List.mem_cons_of_mem _ h)
    exact .cons first others

/-- The hint of a written-out type is the one its converter from JSON stands for. -/
theorem hasHint_converterTree (declared : TypeId → Bool) (t : Inline) :
    (t.converterTree .fromJson).HasHint (t.hintTree declared).text := by
  induction t using Inline.induction with
  | primitive p => exact p.hasHint_converterTree
  | array items ih => exact .fromList ih
  | map values ih => exact .fromDict ih
  | classRef id name =>
    simp only [hintTree, TypeHint.text]
    split
    · exact .quotedClass name
    · exact .bareClass name
  | enumRef id name =>
    simp only [hintTree, TypeHint.text]
    split
    · exact .quotedEnum name
    · exact .bareEnum name
  | formatted f =>
    cases f with
    | dateTime => exact .fromDatetime
    | date | time | uuid | uri | integerString | boolString => exact .identity
  | single only ih => exact ih
  | nullable inner ih => exact .fromOptional ih
  | union members ih => exact .union (hasHint_converterTrees ih)
  | emptyUnion => exact .identity
  | missing id => exact .identity
  | endless id => exact .identity

end Inline

namespace Graph

theorem fault?_eq_none_of (g : Graph) {id : TypeId} {l : Location} (other : Location)
    (h : g.fault? id l = none) : g.fault? id other = none :=
  ((g.inline id).fault?_eq_none_iff other).mpr (((g.inline id).fault?_eq_none_iff l).mp h)

theorem hasHint_propertyConverterTree (g : Graph) (declared : TypeId → Bool)
    (property : Property) :
    (g.propertyConverterTree .fromJson property).HasHint
      (g.propertyHintTree declared property).text := by
  have plain := (g.inline property.type).hasHint_converterTree declared
  unfold propertyConverterTree propertyHintTree
  cases g.wraps property with
  | false => exact plain
  | true => exact .fromOptional plain

/-- Whatever can be given a hint has a converter from JSON that stands for this hint, wherever it is
asked for. A property's hint is optional on top of its type's hint iff its converter lets null pass
on top of its type's converter. -/
theorem hint_text_of_decoder (g : Graph) (declared : TypeId → Bool) :
    (∀ id l hint, (g.hint declared id l).outcome = .ok hint → ∀ place, ∃ decoder,
      (g.converter .fromJson id place).outcome = .ok decoder ∧ decoder.HasHint hint.text) ∧
    ∀ property l hint, (g.propertyHint declared property l).outcome = .ok hint →
      ∀ place, ∃ decoder,
        (g.propertyConverter .fromJson property place).outcome = .ok decoder ∧
        decoder.HasHint hint.text ∧
        ∃ plain inner,
          (g.hint declared property.type l).outcome = .ok plain ∧
          (g.converter .fromJson property.type place).outcome = .ok inner ∧
          hint = (if g.wraps property then .optional plain else plain) ∧
          decoder = (if g.wraps property then .nested .fromOptional inner else inner) := by
  constructor
  · intro id l hint written place
    rw [outcome_hint] at written
    obtain ⟨sound, rfl⟩ := eq_of_faultOr_eq_ok written
    refine ⟨(g.inline id).converterTree .fromJson, ?_, Inline.hasHint_converterTree declared _⟩
    rw [outcome_converter, g.fault?_eq_none_of place sound]
    rfl
  · intro property l hint written place
    rw [outcome_propertyHint] at written
    obtain ⟨sound, rfl⟩ := eq_of_faultOr_eq_ok written
    have sound' := g.fault?_eq_none_of place sound
    refine ⟨g.propertyConverterTree .fromJson property, ?_,
      g.hasHint_propertyConverterTree declared property,
      (g.inline property.type).hintTree declared,
      (g.inline property.type).converterTree .fromJson, ?_, ?_, rfl, rfl⟩
    · rw [outcome_propertyConverter, sound']
      rfl
    · rw [outcome_hint, sound]
      rfl
    · rw [outcome_converter, sound']
      rfl

/-- A union that lists its members in another order than the one in which they are written. -/
def mixedUnion : Graph :=
  ⟨#[.union [⟨1⟩, ⟨2⟩, ⟨3⟩], .classType ⟨"Person", .empty⟩, .array ⟨4⟩, .primitive .null,
    .primitive .integer]⟩

theorem mixedUnion_hint_text :
    (mixedUnion.hint (fun _ => false) ⟨0⟩ ⟨.entryPoint "Test", []⟩).outcome =
        .ok (.union [.none, .list .int, .reference ⟨1⟩ "Person" true]) ∧
      (mixedUnion.propertyHint (fun _ => false) ⟨"ages", ⟨2⟩, true⟩
        ⟨.entryPoint "Test", []⟩).outcome = .ok (.optional (.list .int)) ∧
      (∃ decoder,
        (mixedUnion.converter .fromJson ⟨0⟩ ⟨.entryPoint "Test", []⟩).outcome = .ok decoder ∧
        decoder.HasHint "Union[None, List[int], 'Person']") ∧
      ∃ decoder,
        (mixedUnion.propertyConverter .fromJson ⟨"ages", ⟨2⟩, true⟩
          ⟨.entryPoint "Test", []⟩).outcome = .ok decoder ∧
        decoder.HasHint "Optional[List[int]]" := by
  have ofType := (hint_text_of_decoder mixedUnion fun _ => false).1 ⟨0⟩ ⟨.entryPoint "Test", []⟩
    (.union [.none, .list .int, .reference ⟨1⟩ "Person" true]) rfl ⟨.entryPoint "Test", []⟩
  obtain ⟨decoder, built, hasHint, _⟩ := (hint_text_of_decoder mixedUnion fun _ => false).2
    ⟨"ages", ⟨2⟩, true⟩ ⟨.entryPoint "Test", []⟩ (.optional (.list .int)) rfl
    ⟨.entryPoint "Test", []⟩
  exact ⟨rfl, rfl, ofType, decoder, built, hasHint⟩

end Graph

end JsonBinding
