import JsonBinding.Proofs.Inline.Outcome
/-!
What the walks through a written-out type record. A walk that comes to its end has recorded the
imports that its hint refers to (`hint_of_writable`), or the support functions that its converter
calls (`convert_of_writable`), and nothing else. The same holds of properties, whose hints and
converters may be wrapped (`propertyHint_of_sound`, `propertyConverter_of_sound`).
-/
namespace JsonBinding

mutual

/-- The imports that a hint refers to, outer ones first. -/
def TypeHint.imports : TypeHint → List Import
  | any => [.any]
  | none | bool | int | float | str => []
  | datetime => [.datetime]
  | list item => .list :: item.imports
  | dict value => .dict :: value.imports
  | optional inner => .optional :: inner.imports
  | union members => .union :: TypeHint.memberImports members
  | reference _ _ _ => []

def TypeHint.memberImports : List TypeHint → List Import
  | [] => []
  | member :: rest => member.imports ++ TypeHint.memberImports rest

end

mutual

/-- The support functions that a converter calls; an outer one comes after those inside it, but that
of a union comes before those of its members. -/
def Converter.calls : Converter → List Combinator
  | identity | classFromDict _ | enumValue _ => []
  | function c | typed c _ => [c]
  | nested c inner => inner.calls ++ [c]
  | union members => .fromUnion :: Converter.memberCalls members

def Converter.memberCalls : List Converter → List Combinator
  | [] => []
  | member :: rest => member.calls ++ Converter.memberCalls rest

end

namespace Recorded

variable {ω α β : Type}

theorem bind_pure_mk (record : List ω) (value : α) (k : α → β) :
    ((⟨record, .ok value⟩ : Recorded ω α) >>= fun a => pure (k a)) =
      ⟨record, .ok (k value)⟩ := by
  simp [bind, pure]

theorem note_bind_mk {entry : ω} {record : List ω} {value : β} {x : Recorded ω β}
    (rest : x = ⟨record, .ok value⟩) :
    (note entry >>= fun _ => x) = ⟨entry :: record, .ok value⟩ := by
  rw [rest]
  rfl

theorem bind_cons_mk {x : Recorded ω α} {xs : Recorded ω (List α)} {record records : List ω}
    {value : α} {values : List α} (first : x = ⟨record, .ok value⟩)
    (rest : xs = ⟨records, .ok values⟩) :
    (do return (← x) :: (← xs) : Recorded ω (List α)) =
      ⟨record ++ records, .ok (value :: values)⟩ := by
  rw [first, rest]
  simp [bind, pure]

theorem mapM_mk {f : α → Recorded ω β} {record : α → List ω} {k : α → β} {entries : List α}
    (each : ∀ a ∈ entries, f a = ⟨record a, .ok (k a)⟩) :
    entries.mapM f = ⟨entries.flatMap record, .ok (entries.map k)⟩ := by
  induction entries with
  | nil => rfl
  | cons entry rest ih =>
    have first := each entry List.mem_cons_self
    have others := ih fun other among => each other (List.mem_cons_of_mem _ among)
    rw [List.mapM_cons, bind_cons_mk first others, List.flatMap_cons, List.map_cons]

end Recorded

namespace Primitive

theorem hint_eq (p : Primitive) : p.hint = ⟨p.hintTree.imports, .ok p.hintTree⟩ := by
  cases p <;> rfl

theorem convert_eq (p : Primitive) : p.convert = ⟨p.converterTree.calls, .ok p.converterTree⟩ := by
  cases p <;> rfl

end Primitive

namespace Inline

theorem hintMembers_of_writable {declared : TypeId → Bool} {members : List Inline}
    (each : ∀ member ∈ members, ∀ l, member.hint declared l =
      ⟨(member.hintTree declared).imports, .ok (member.hintTree declared)⟩)
    (l : Location) (index : Nat) :
    hintMembers declared members l index =
      ⟨TypeHint.memberImports (hintTrees declared members), .ok (hintTrees declared members)⟩ := by
  induction members generalizing index with
  | nil => rfl
  | cons member rest ih =>
    have first := each member List.mem_cons_self (l.member index)
    have others := ih (fun other among => each other (List.mem_cons_of_mem _ among)) (index + 1)
    exact Recorded.bind_cons_mk first others

/-- A walk for a hint that comes to its end has recorded the imports of the hint. -/
theorem hint_of_writable (declared : TypeId → Bool) {t : Inline} (writable : t.Writable)
    (l : Location) :
    t.hint declared l = ⟨(t.hintTree declared).imports, .ok (t.hintTree declared)⟩ := by
  induction t using Inline.induction generalizing l with
  | primitive p => exact p.hint_eq
  | array items ih | map values ih | nullable inner ih =>
    simp only [hint, ih writable, Recorded.bind_pure_mk]
    exact Recorded.note_bind_mk rfl
  | classRef id name | enumRef id name => rfl
  | formatted f =>
    cases f with
    | dateTime => rfl
    | date | time | uuid | uri | integerString | boolString => exact writable.elim
  | single only ih => exact ih writable (l.member 0)
  | union members ih =>
    have each := (allWritable_iff members).mp writable
    simp only [hint, Recorded.bind_pure_mk,
      hintMembers_of_writable (fun member among => ih member among (each member among))]
    exact Recorded.note_bind_mk rfl
  | emptyUnion | missing id | endless id => exact writable.elim

theorem convertMembers_of_writable {d : Direction} {members : List Inline}
    (each : ∀ member ∈ members, ∀ l, member.convert d l =
      ⟨(member.converterTree d).calls, .ok (member.converterTree d)⟩)
    (l : Location) (index : Nat) :
    convertMembers d members l index =
      ⟨Converter.memberCalls (converterTrees d members), .ok (converterTrees d members)⟩ := by
  induction members generalizing index with
  | nil => rfl
  | cons member rest ih =>
    have first := each member List.mem_cons_self (l.member index)
    have others := ih (fun other among => each other (List.mem_cons_of_mem _ among)) (index + 1)
    exact Recorded.bind_cons_mk first others

theorem convert_of_writable (d : Direction) {t : Inline} (writable : t.Writable) (l : Location) :
    t.convert d l = ⟨(t.converterTree d).calls, .ok (t.converterTree d)⟩ := by
  induction t using Inline.induction generalizing l with
  | primitive p => exact p.convert_eq
  | array items ih | map values ih | nullable inner ih =>
    simp only [convert, ih writable]
    rfl
  | classRef id name | enumRef id name => cases d <;> rfl
  | formatted f =>
    cases f with
    | dateTime => cases d <;> rfl
    | date | time | uuid | uri | integerString | boolString => exact writable.elim
  | single only ih => exact ih writable (l.member 0)
  | union members ih =>
    have each := (allWritable_iff members).mp writable
    simp only [convert, Recorded.bind_pure_mk,
      convertMembers_of_writable (fun member among => ih member among (each member among))]
    exact Recorded.note_bind_mk rfl
  | emptyUnion | missing id | endless id => exact writable.elim

end Inline

namespace Graph

variable {g : Graph} {id : TypeId} {property : Property} {l : Location}

theorem hint_of_sound (declared : TypeId → Bool) (sound : g.fault? id l = none) :
    g.hint declared id l =
      ⟨((g.inline id).hintTree declared).imports, .ok ((g.inline id).hintTree declared)⟩ :=
  Inline.hint_of_writable declared (((g.inline id).fault?_eq_none_iff l).mp sound) l

theorem converter_of_sound (d : Direction) (sound : g.fault? id l = none) :
    g.converter d id l =
      ⟨((g.inline id).converterTree d).calls, .ok ((g.inline id).converterTree d)⟩ :=
  Inline.convert_of_writable d (((g.inline id).fault?_eq_none_iff l).mp sound) l

theorem propertyHint_of_sound (declared : TypeId → Bool)
    (sound : g.fault? property.type l = none) :
    g.propertyHint declared property l =
      ⟨(g.propertyHintTree declared property).imports,
        .ok (g.propertyHintTree declared property)⟩ := by
  have plain := hint_of_sound declared sound
  unfold propertyHint propertyHintTree wraps
  rw [plain]
  cases property.optional && !g.acceptsNull property.type with
  | false => rfl
  | true =>
    simp only [if_true, Recorded.bind_pure_mk]
    exact Recorded.note_bind_mk rfl

theorem propertyConverter_of_sound (d : Direction) (sound : g.fault? property.type l = none) :
    g.propertyConverter d property l =
      ⟨(g.propertyConverterTree d property).calls,
        .ok (g.propertyConverterTree d property)⟩ := by
  have plain := converter_of_sound d sound
  unfold propertyConverter propertyConverterTree wraps
  rw [plain]
  cases property.optional && !g.acceptsNull property.type with
  | false =>
    simp only [Bool.false_eq_true, if_false]
    exact bind_pure _
  | true => rfl

end Graph

end JsonBinding
