import JsonBinding.Proofs.Inline.Outcome
import Mathlib.Data.Set.Function
/-!
Decoders and encoders of the same type. A class, an enum and a point in time each have two labels,
one for reading and one for writing; to relabel a converter is to exchange these and to leave all
else in its place (`Converter.relabel`). The converter of one direction is the relabelled converter
of the other, and since labels can be turned back, either determines the other
(`encoder_is_relabelled_decoder`).
-/
namespace JsonBinding

def Combinator.relabel : Direction → Combinator → Combinator
  | .toJson, .fromDatetime => .toDatetime
  | .fromJson, .toDatetime => .fromDatetime
  | _, c => c

namespace Converter

mutual

/-- The converter with the labels of the given direction. -/
def relabel (d : Direction) : Converter → Converter
  | identity => identity
  | function c => function (c.relabel d)
  | nested c inner => nested c (relabel d inner)
  | union members => union (relabelAll d members)
  | classFromDict name | typed .toClass name =>
    match d with
    | .fromJson => classFromDict name
    | .toJson => typed .toClass name
  | enumValue name | typed .toEnum name =>
    match d with
    | .fromJson => enumValue name
    | .toJson => typed .toEnum name
  | typed c name => typed c name

def relabelAll (d : Direction) : List Converter → List Converter
  | [] => []
  | member :: rest => relabel d member :: relabelAll d rest

end

theorem relabelAll_eq_map (d : Direction) (members : List Converter) :
    relabelAll d members = members.map (relabel d) := by
  induction members with
  | nil => rfl
  | cons member rest ih => rw [relabelAll, ih, List.map_cons]

end Converter

namespace Inline

theorem relabel_converterTree (d other : Direction) (t : Inline) :
    (t.converterTree other).relabel d = t.converterTree d := by
  induction t using Inline.induction with
  | primitive p => cases d <;> cases p <;> rfl
  | array items ih | map values ih | nullable inner ih =>
    simp only [converterTree, Converter.relabel, ih]
  | classRef id name | enumRef id name => cases d <;> cases other <;> rfl
  | formatted f => cases f <;> cases d <;> cases other <;> rfl
  | single only ih => exact ih
  | union members ih =>
    have each : (members.map (converterTree other)).map (Converter.relabel d) =
        members.map (converterTree d) := by
      rw [List.map_map]
      exact List.map_congr_left ih
    simp only [converterTree, Converter.relabel, Converter.relabelAll_eq_map,
      converterTrees_eq_map, each]
  | emptyUnion | missing id | endless id => rfl

end Inline

theorem map_faultOr {α β : Type} (k : α → β) (fault? : Option Fault) (value : α) :
    (faultOr fault? value).map k = faultOr fault? (k value) := by
  cases fault? <;> rfl

namespace Graph

theorem relabel_propertyConverterTree (g : Graph) (d other : Direction) (property : Property) :
    (g.propertyConverterTree other property).relabel d = g.propertyConverterTree d property := by
  have plain := (g.inline property.type).relabel_converterTree d other
  unfold propertyConverterTree
  cases g.wraps property with
  | false => exact plain
  | true => exact congrArg (Converter.nested .fromOptional) plain

theorem map_relabel_outcome_converter (g : Graph) (d other : Direction) (id : TypeId)
    (l : Location) :
    (g.converter other id l).outcome.map (Converter.relabel d) = (g.converter d id l).outcome := by
  rw [outcome_converter, outcome_converter, map_faultOr, Inline.relabel_converterTree]

theorem map_relabel_outcome_propertyConverter (g : Graph) (d other : Direction)
    (property : Property) (l : Location) :
    (g.propertyConverter other property l).outcome.map (Converter.relabel d) =
      (g.propertyConverter d property l).outcome := by
  rw [outcome_propertyConverter, outcome_propertyConverter, map_faultOr,
    relabel_propertyConverterTree]

end Graph

namespace Converter

/-- The converters that the types and properties of any graph have in a direction. -/
inductive Built (d : Direction) : Converter → Prop
  | ofType {g : Graph} {id : TypeId} {l : Location} {c : Converter} :
      (g.converter d id l).outcome = .ok c → Built d c
  | ofProperty {g : Graph} {property : Property} {l : Location} {c : Converter} :
      (g.propertyConverter d property l).outcome = .ok c → Built d c

variable {c : Converter} {other : Direction}

theorem Built.relabel (d : Direction) (built : c.Built other) : (c.relabel d).Built d := by
  cases built with
  | @ofType g id l _ given =>
    have same := g.map_relabel_outcome_converter d other id l
    rw [given] at same
    exact .ofType same.symm
  | @ofProperty g property l _ given =>
    have same := g.map_relabel_outcome_propertyConverter d other property l
    rw [given] at same
    exact .ofProperty same.symm

theorem Built.relabel_relabel (d : Direction) (built : c.Built other) :
    (c.relabel d).relabel other = c := by
  cases built with
  | ofType given =>
    rw [Graph.outcome_converter] at given
    obtain ⟨-, rfl⟩ := eq_of_faultOr_eq_ok given
    rw [Inline.relabel_converterTree, Inline.relabel_converterTree]
  | ofProperty given =>
    rw [Graph.outcome_propertyConverter] at given
    obtain ⟨-, rfl⟩ := eq_of_faultOr_eq_ok given
    rw [Graph.relabel_propertyConverterTree, Graph.relabel_propertyConverterTree]

end Converter

namespace Graph

/-- A type has an encoder iff it has a decoder, and then the encoder is the relabelled decoder; the
same holds of properties. Over all graphs, relabelling pairs the decoders off with the encoders. -/
theorem encoder_is_relabelled_decoder :
    (∀ (g : Graph) id l, (g.converter .toJson id l).outcome =
      (g.converter .fromJson id l).outcome.map (Converter.relabel .toJson)) ∧
    (∀ (g : Graph) property l, (g.propertyConverter .toJson property l).outcome =
      (g.propertyConverter .fromJson property l).outcome.map (Converter.relabel .toJson)) ∧
    Set.BijOn (Converter.relabel .toJson) {c | c.Built .fromJson} {c | c.Built .toJson} ∧
    Set.LeftInvOn (Converter.relabel .fromJson) (Converter.relabel .toJson)
      {c | c.Built .fromJson} := by
  refine ⟨?_, ?_, ?_, ?_⟩
  · intro g id l
    exact (g.map_relabel_outcome_converter .toJson .fromJson id l).symm
  · intro g property l
    exact (g.map_relabel_outcome_propertyConverter .toJson .fromJson property l).symm
  · have inverse : Set.InvOn (Converter.relabel .fromJson) (Converter.relabel .toJson)
        {c | c.Built .fromJson} {c | c.Built .toJson} :=
      ⟨fun _ built => built.relabel_relabel .toJson, fun _ built => built.relabel_relabel .fromJson⟩
    exact inverse.bijOn (fun _ built => built.relabel .toJson) fun _ built =>
      built.relabel .fromJson
  · intro c built
    exact built.relabel_relabel .toJson

/-- A union of a class, a list of moods and a point in time. -/
def entryUnion : Graph :=
  ⟨#[.union [⟨1⟩, ⟨2⟩, ⟨4⟩], .classType ⟨"Page", .empty⟩, .array ⟨3⟩,
    .enumType ⟨"Mood", .ofList [("GOOD", "good")]⟩, .formatted .dateTime]⟩

theorem entryUnion_relabelled :
    (entryUnion.converter .fromJson ⟨0⟩ ⟨.entryPoint "Test", []⟩).outcome =
        .ok (.union [.function .fromDatetime, .nested .fromList (.enumValue "Mood"),
          .classFromDict "Page"]) ∧
      (entryUnion.converter .toJson ⟨0⟩ ⟨.entryPoint "Test", []⟩).outcome =
        .ok (.union [.function .toDatetime, .nested .fromList (.typed .toEnum "Mood"),
          .typed .toClass "Page"]) ∧
      (entryUnion.propertyConverter .toJson ⟨"page", ⟨1⟩, true⟩
        ⟨.entryPoint "Test", []⟩).outcome =
        .ok (.nested .fromOptional (.typed .toClass "Page")) :=
  ⟨rfl, encoder_is_relabelled_decoder.1 entryUnion ⟨0⟩ _,
    encoder_is_relabelled_decoder.2.1 entryUnion ⟨"page", ⟨1⟩, true⟩ _⟩

end Graph

end JsonBinding
