import JsonBinding.Converter
import JsonBinding.Draft.Basic
import JsonBinding.Proofs.Inline.Acyclic
import JsonBinding.TypeHint
/-!
How the walks through a written-out type end. Hints and converters are built by walks of their own;
`Inline.fault?` says what either of them stops at, and `outcome_hint` and `outcome_convert` say that
both stop there and give the value of the whole type otherwise. Hence a hint and the converters of
both directions end alike, from whatever state of a module they are asked for
(`hint_and_converters_end_alike`).
-/
namespace JsonBinding

/-- A fault where there is one, and the value otherwise. -/
def faultOr {α : Type} (fault? : Option Fault) (value : α) : Except Fault α :=
  match fault? with
  | none => .ok value
  | some fault => .error fault

theorem eq_of_faultOr_eq_ok {α : Type} {fault? : Option Fault} {value result : α}
    (h : faultOr fault? value = .ok result) : fault? = none ∧ value = result := by
  cases fault? with
  | none => exact ⟨rfl, Except.ok.inj h⟩
  | some fault => cases h

namespace Recorded

variable {ω α β : Type}

theorem outcome_bind_total {x : Recorded ω α} {f : α → Recorded ω β} {fault? : Option Fault}
    {value : α} {k : α → β} (first : x.outcome = faultOr fault? value)
    (total : ∀ a, (f a).outcome = .ok (k a)) : (x >>= f).outcome = faultOr fault? (k value) := by
  rw [outcome_bind, first]
  cases fault? with
  | none => exact total value
  | some fault => rfl

theorem outcome_bind_pure {x : Recorded ω α} {fault? : Option Fault} {value : α}
    (first : x.outcome = faultOr fault? value) (k : α → β) :
    (x >>= fun a => pure (k a)).outcome = faultOr fault? (k value) :=
  outcome_bind_total first fun _ => rfl

theorem outcome_bind_cons {x : Recorded ω α} {xs : Recorded ω (List α)}
    {fault? rest? : Option Fault} {value : α} {values : List α}
    (first : x.outcome = faultOr fault? value) (rest : xs.outcome = faultOr rest? values) :
    (do return (← x) :: (← xs) : Recorded ω (List α)).outcome =
      faultOr (fault?.or rest?) (value :: values) := by
  rw [outcome_bind, first]
  cases fault? with
  | none => exact outcome_bind_pure rest _
  | some fault => rfl

theorem outcome_mapM {f : α → Recorded ω β} {fault? : α → Option Fault} {k : α → β}
    {entries : List α} (each : ∀ a ∈ entries, (f a).outcome = faultOr (fault? a) (k a)) :
    (entries.mapM f).outcome = faultOr (entries.findSome? fault?) (entries.map k) := by
  induction entries with
  | nil => rfl
  | cons entry rest ih =>
    obtain ⟨first, others⟩ := List.forall_mem_cons.mp each
    rw [List.mapM_cons, List.findSome?_cons, List.map_cons, outcome_bind_cons first (ih others)]
    cases fault? entry <;> rfl

end Recorded

@[elab_as_elim]
theorem Inline.induction {motive : Inline → Prop} (primitive : ∀ p, motive (.primitive p))
    (array : ∀ items, motive items → motive (.array items))
    (map : ∀ values, motive values → motive (.map values))
    (classRef : ∀ id name, motive (.classRef id name))
    (enumRef : ∀ id name, motive (.enumRef id name)) (formatted : ∀ f, motive (.formatted f))
    (single : ∀ only, motive only → motive (.single only))
    (nullable : ∀ inner, motive inner → motive (.nullable inner))
    (union : ∀ members, (∀ member ∈ members, motive member) → motive (.union members))
    (emptyUnion : motive .emptyUnion) (missing : ∀ id, motive (.missing id))
    (endless : ∀ id, motive (.endless id)) (t : Inline) : motive t :=
  @Inline.rec motive (fun members => ∀ member ∈ members, motive member) primitive array map classRef
    enumRef formatted single nullable union emptyUnion missing endless
    (fun _ h => absurd h List.not_mem_nil)
    (fun _ _ first rest _ h => (List.mem_cons.mp h).elim (fun same => same ▸ first) (rest _)) t

/-- The same of the types written out from a graph; the names in them are declared there. -/
@[elab_as_elim]
theorem Graph.expand_induction {g : Graph} {motive : Inline → Prop}
    (primitive : ∀ p, motive (.primitive p)) (array : ∀ items, motive items → motive (.array items))
    (map : ∀ values, motive values → motive (.map values))
    (classRef : ∀ id c, g.get? id = some (.classType c) → motive (.classRef id c.name))
    (enumRef : ∀ id e, g.get? id = some (.enumType e) → motive (.enumRef id e.name))
    (formatted : ∀ f, motive (.formatted f)) (single : ∀ only, motive only → motive (.single only))
    (nullable : ∀ inner, motive inner → motive (.nullable inner))
    (union : ∀ members, (∀ member ∈ members, motive member) → motive (.union members))
    (emptyUnion : motive .emptyUnion) (missing : ∀ id, motive (.missing id))
    (endless : ∀ id, motive (.endless id)) (depth : Nat) (id : TypeId) :
    motive (g.expand depth id) := by
  induction depth generalizing id with
  | zero => exact endless id
  | succ depth ih =>
    rw [expand_succ]
    unfold layer
    split
    · exact missing id
    · exact primitive _
    · exact array _ (ih _)
    · exact map _ (ih _)
    · next c found => exact classRef id c found
    · next e found => exact enumRef id e found
    · exact formatted _
    · split
      · exact emptyUnion
      · exact single _ (ih _)
      · exact nullable _ (ih _)
      · next ordered _ =>
        refine union _ fun member among => ?_
        obtain ⟨part, _, rfl⟩ := List.mem_map.mp among
        exact ih part

mutual

/-- What a walk through a written-out type stops at. -/
def Inline.fault? : Inline → Location → Option Fault
  | .primitive _, _ | .classRef _ _, _ | .enumRef _ _, _ | .formatted .dateTime, _ => none
  | .array items, l => items.fault? l.item
  | .map values, l => values.fault? l.value
  | .formatted f, l => some (.unsupportedFormat f l)
  | .single only, l => only.fault? (l.member 0)
  | .nullable inner, l => inner.fault? (l.member 1)
  | .union members, l => Inline.memberFault? members l 0
  | .emptyUnion, l => some (.emptyUnion l)
  | .missing id, l => some (.unknownType id l)
  | .endless id, l => some (.endlessType id l)

def Inline.memberFault? : List Inline → Location → Nat → Option Fault
  | [], _, _ => none
  | member :: rest, l, index =>
    (member.fault? (l.member index)).or (Inline.memberFault? rest l (index + 1))

end

def Primitive.hintTree : Primitive → TypeHint
  | .any => .any
  | .null => .none
  | .bool => .bool
  | .integer => .int
  | .double => .float
  | .string => .str

mutual

/-- The hint that a walk through a type gives. `Any` stands for what no walk comes past. -/
def Inline.hintTree (declared : TypeId → Bool) : Inline → TypeHint
  | .primitive p => p.hintTree
  | .array items => .list (items.hintTree declared)
  | .map values => .dict (values.hintTree declared)
  | .classRef id name => .reference id name !declared id
  | .enumRef id name => .reference id name !declared id
  | .formatted .dateTime => .datetime
  | .single only => only.hintTree declared
  | .nullable inner => .optional (inner.hintTree declared)
  | .union members => .union (Inline.hintTrees declared members)
  | .formatted _ | .emptyUnion | .missing _ | .endless _ => .any

def Inline.hintTrees (declared : TypeId → Bool) : List Inline → List TypeHint
  | [] => []
  | member :: rest => member.hintTree declared :: Inline.hintTrees declared rest

end

def Primitive.converterTree : Primitive → Converter
  | .any => .identity
  | .null => .function .fromNone
  | .bool => .function .fromBool
  | .integer => .function .fromInt
  | .double => .function .fromFloat
  | .string => .function .fromStr

mutual

/-- The converter that a walk through a type gives. The identity stands for what no walk comes
past. -/
def Inline.converterTree (d : Direction) : Inline → Converter
  | .primitive p => p.converterTree
  | .array items => .nested .fromList (items.converterTree d)
  | .map values => .nested .fromDict (values.converterTree d)
  | .classRef _ name =>
    match d with
    | .fromJson => .classFromDict name
    | .toJson => .typed .toClass name
  | .enumRef _ name =>
    match d with
    | .fromJson => .enumValue name
    | .toJson => .typed .toEnum name
  | .formatted .dateTime =>
    match d with
    | .fromJson => .function .fromDatetime
    | .toJson => .function .toDatetime
  | .single only => only.converterTree d
  | .nullable inner => .nested .fromOptional (inner.converterTree d)
  | .union members => .union (Inline.converterTrees d members)
  | .formatted _ | .emptyUnion | .missing _ | .endless _ => .identity

def Inline.converterTrees (d : Direction) : List Inline → List Converter
  | [] => []
  | member :: rest => member.converterTree d :: Inline.converterTrees d rest

end

namespace Primitive

theorem outcome_hint (p : Primitive) : p.hint.outcome = .ok p.hintTree := by
  cases p <;> rfl

theorem outcome_convert (p : Primitive) : p.convert.outcome = .ok p.converterTree := by
  cases p <;> rfl

end Primitive

namespace Inline

theorem hintTrees_eq_map (declared : TypeId → Bool) (members : List Inline) :
    hintTrees declared members = members.map (hintTree declared) := by
  induction members with
  | nil => rfl
  | cons member rest ih => rw [hintTrees, ih, List.map_cons]

theorem converterTrees_eq_map (d : Direction) (members : List Inline) :
    converterTrees d members = members.map (converterTree d) := by
  induction members with
  | nil => rfl
  | cons member rest ih => rw [converterTrees, ih, List.map_cons]

theorem memberFault?_eq_findSome? (members : List Inline) (l : Location) (index : Nat) :
    memberFault? members l index =
      (members.zipIdx index).findSome? fun (member, i) => member.fault? (l.member i) := by
  induction members generalizing index with
  | nil => rfl
  | cons member rest ih =>
    rw [memberFault?, List.zipIdx_cons, List.findSome?_cons, ih]
    dsimp only
    cases member.fault? (l.member index) <;> rfl

theorem outcome_members {ω α : Type} {walk : Inline → Location → Recorded ω α}
    {tree : Inline → α} {members : List Inline}
    (each : ∀ member ∈ members, ∀ l,
      (walk member l).outcome = faultOr (member.fault? l) (tree member))
    (l : Location) (index : Nat) :
    ((members.zipIdx index).mapM fun (member, i) => walk member (l.member i)).outcome =
      faultOr (memberFault? members l index) (members.map tree) := by
  have trees : (members.zipIdx index).map (tree ∘ Prod.fst) = members.map tree := by
    rw [← List.map_map, List.zipIdx_map_fst]
  rw [memberFault?_eq_findSome?, ← trees]
  refine Recorded.outcome_mapM ?_
  rintro ⟨member, i⟩ among
  exact each member (List.fst_mem_of_mem_zipIdx among) (l.member i)

theorem outcome_hintMembers {declared : TypeId → Bool} {members : List Inline}
    (each : ∀ member ∈ members, ∀ l,
      (member.hint declared l).outcome = faultOr (member.fault? l) (member.hintTree declared))
    (l : Location) (index : Nat) :
    (hintMembers declared members l index).outcome =
      faultOr (memberFault? members l index) (hintTrees declared members) := by
  rw [hintMembers_eq_mapM, hintTrees_eq_map]
  exact outcome_members each l index

/-- The walk for the hint stops at the fault of the type, if there is one. -/
theorem outcome_hint (declared : TypeId → Bool) (t : Inline) (l : Location) :
    (t.hint declared l).outcome = faultOr (t.fault? l) (t.hintTree declared) := by
  induction t using Inline.induction generalizing l with
  | primitive p => exact p.outcome_hint
  | array items ih => exact Recorded.outcome_bind_total (ih l.item) fun _ => rfl
  | map values ih => exact Recorded.outcome_bind_total (ih l.value) fun _ => rfl
  | classRef id name => rfl
  | enumRef id name => rfl
  | formatted f => cases f <;> rfl
  | single only ih => exact ih (l.member 0)
  | nullable inner ih => exact Recorded.outcome_bind_total (ih (l.member 1)) fun _ => rfl
  | union members ih =>
    exact Recorded.outcome_bind_total (outcome_hintMembers ih l 0) fun _ => rfl
  | emptyUnion => rfl
  | missing id => rfl
  | endless id => rfl

theorem outcome_convertMembers {d : Direction} {members : List Inline}
    (each : ∀ member ∈ members, ∀ l,
      (member.convert d l).outcome = faultOr (member.fault? l) (member.converterTree d))
    (l : Location) (index : Nat) :
    (convertMembers d members l index).outcome =
      faultOr (memberFault? members l index) (converterTrees d members) := by
  rw [convertMembers_eq_mapM, converterTrees_eq_map]
  exact outcome_members each l index

theorem outcome_convert (d : Direction) (t : Inline) (l : Location) :
    (t.convert d l).outcome = faultOr (t.fault? l) (t.converterTree d) := by
  induction t using Inline.induction generalizing l with
  | primitive p => exact p.outcome_convert
  | array items ih => exact Recorded.outcome_bind_total (ih l.item) fun _ => rfl
  | map values ih => exact Recorded.outcome_bind_total (ih l.value) fun _ => rfl
  | classRef id name => cases d <;> rfl
  | enumRef id name => cases d <;> rfl
  | formatted f => cases f <;> cases d <;> rfl
  | single only ih => exact ih (l.member 0)
  | nullable inner ih => exact Recorded.outcome_bind_total (ih (l.member 1)) fun _ => rfl
  | union members ih =>
    exact Recorded.outcome_bind_total (outcome_convertMembers ih l 0) fun _ => rfl
  | emptyUnion => rfl
  | missing id => rfl
  | endless id => rfl

end Inline

mutual

/-- Every part of a written-out type can be written. -/
def Inline.Writable : Inline → Prop
  | .primitive _ | .classRef _ _ | .enumRef _ _ | .formatted .dateTime => True
  | .array items => items.Writable
  | .map values => values.Writable
  | .single only => only.Writable
  | .nullable inner => inner.Writable
  | .union members => Inline.AllWritable members
  | .formatted _ | .emptyUnion | .missing _ | .endless _ => False

def Inline.AllWritable : List Inline → Prop
  | [] => True
  | member :: rest => member.Writable ∧ Inline.AllWritable rest

end

theorem Inline.allWritable_iff (members : List Inline) :
    Inline.AllWritable members ↔ ∀ member ∈ members, member.Writable := by
  induction members with
  | nil => simp [Inline.AllWritable]
  | cons member rest ih => simp [Inline.AllWritable, ih]

namespace Fault

/-- The faults of a type that cannot be written, whatever it is written for. -/
def IsUnwritable : Fault → Prop
  | unsupportedFormat _ _ | unknownType _ _ | emptyUnion _ => True
  | undeclarable _ _ | alreadyDeclared _ | endlessType _ _ => False

/-- The faults that a walk may stop at when it has come to a place. -/
inductive At (l : Location) : Fault → Prop
  | unsupportedFormat (f : StringFormat) : At l (.unsupportedFormat f l)
  | unknownType (id : TypeId) : At l (.unknownType id l)
  | emptyUnion : At l (.emptyUnion l)
  | endlessType (id : TypeId) : At l (.endlessType id l)

end Fault

def Location.extend (l : Location) (steps : List Location.Step) : Location :=
  { l with steps := l.steps ++ steps }

theorem Location.extend_nil (l : Location) : l.extend [] = l := by
  simp [extend]

theorem Location.extend_step (l : Location) (s : Location.Step) (steps : List Location.Step) :
    (l.step s).extend steps = l.extend (s :: steps) := by
  simp [extend, step]

namespace Inline

theorem memberFault?_eq_none_iff {members : List Inline}
    (each : ∀ member ∈ members, ∀ l, member.fault? l = none ↔ member.Writable) (l : Location)
    (index : Nat) : memberFault? members l index = none ↔ AllWritable members := by
  induction members generalizing index with
  | nil => exact iff_of_true rfl trivial
  | cons member rest ih =>
    have first := each member List.mem_cons_self (l.member index)
    have others := ih (fun other h => each other (List.mem_cons_of_mem _ h)) (index + 1)
    rw [memberFault?, AllWritable, Option.or_eq_none_iff, first, others]

theorem fault?_eq_none_iff (t : Inline) (l : Location) : t.fault? l = none ↔ t.Writable := by
  induction t using Inline.induction generalizing l with
  | primitive p => exact iff_of_true rfl trivial
  | array items ih => exact ih l.item
  | map values ih => exact ih l.value
  | classRef id name => exact iff_of_true rfl trivial
  | enumRef id name => exact iff_of_true rfl trivial
  | formatted f => cases f <;> simp [fault?, Writable]
  | single only ih => exact ih (l.member 0)
  | nullable inner ih => exact ih (l.member 1)
  | union members ih => exact memberFault?_eq_none_iff ih l 0
  | emptyUnion => simp [fault?, Writable]
  | missing id => simp [fault?, Writable]
  | endless id => simp [fault?, Writable]

theorem exists_member_of_memberFault? {members : List Inline} {l : Location} {index : Nat}
    {fault : Fault} (h : memberFault? members l index = some fault) :
    ∃ member ∈ members, ∃ i, member.fault? (l.member i) = some fault := by
  rw [memberFault?_eq_findSome?] at h
  obtain ⟨⟨member, i⟩, among, stops⟩ := List.exists_of_findSome?_eq_some h
  exact ⟨member, List.fst_mem_of_mem_zipIdx among, i, stops⟩

theorem exists_at_of_fault? {t : Inline} {l : Location} {fault : Fault}
    (h : t.fault? l = some fault) : ∃ steps, Fault.At (l.extend steps) fault := by
  induction t using Inline.induction generalizing l with
  | primitive p => cases h
  | array items ih =>
    obtain ⟨steps, at'⟩ := ih h
    exact ⟨.item :: steps, l.extend_step .item steps ▸ at'⟩
  | map values ih =>
    obtain ⟨steps, at'⟩ := ih h
    exact ⟨.value :: steps, l.extend_step .value steps ▸ at'⟩
  | classRef id name => cases h
  | enumRef id name => cases h
  | formatted f =>
    refine ⟨[], ?_⟩
    rw [l.extend_nil]
    cases f <;> cases h <;> exact .unsupportedFormat _
  | single only ih =>
    obtain ⟨steps, at'⟩ := ih h
    exact ⟨.member 0 :: steps, l.extend_step (.member 0) steps ▸ at'⟩
  | nullable inner ih =>
    obtain ⟨steps, at'⟩ := ih h
    exact ⟨.member 1 :: steps, l.extend_step (.member 1) steps ▸ at'⟩
  | union members ih =>
    obtain ⟨member, among, i, stops⟩ := exists_member_of_memberFault? h
    obtain ⟨steps, at'⟩ := ih member among stops
    exact ⟨.member i :: steps, l.extend_step (.member i) steps ▸ at'⟩
  | emptyUnion =>
    cases h
    exact ⟨[], l.extend_nil.symm ▸ .emptyUnion⟩
  | missing id =>
    cases h
    exact ⟨[], l.extend_nil.symm ▸ .unknownType id⟩
  | endless id =>
    cases h
    exact ⟨[], l.extend_nil.symm ▸ .endlessType id⟩

/-- A walk that never runs out of depth stops only at what cannot be written. -/
theorem isUnwritable_of_fault? {t : Inline} (finished : t.Finished) {l : Location} {fault : Fault}
    (h : t.fault? l = some fault) : fault.IsUnwritable := by
  induction t using Inline.induction generalizing l with
  | primitive p => cases h
  | array items ih => exact ih finished h
  | map values ih => exact ih finished h
  | classRef id name => cases h
  | enumRef id name => cases h
  | formatted f => cases f <;> cases h <;> trivial
  | single only ih => exact ih finished h
  | nullable inner ih => exact ih finished h
  | union members ih =>
    obtain ⟨member, among, _, stops⟩ := exists_member_of_memberFault? h
    exact ih member among ((allFinished_iff members).mp finished member among) stops
  | emptyUnion => cases h; trivial
  | missing id => cases h; trivial
  | endless id => exact finished.elim

end Inline

namespace Graph

/-- What the walk for a type of a graph stops at. -/
def fault? (g : Graph) (id : TypeId) (l : Location) : Option Fault :=
  (g.inline id).fault? l

/-- Whether a property lets null pass although its type does not. -/
def wraps (g : Graph) (property : Property) : Bool :=
  property.optional && !g.acceptsNull property.type

def propertyHintTree (g : Graph) (declared : TypeId → Bool) (property : Property) : TypeHint :=
  let plain := (g.inline property.type).hintTree declared
  if g.wraps property then .optional plain else plain

def propertyConverterTree (g : Graph) (d : Direction) (property : Property) : Converter :=
  let plain := (g.inline property.type).converterTree d
  if g.wraps property then .nested .fromOptional plain else plain

theorem outcome_hint (g : Graph) (declared : TypeId → Bool) (id : TypeId) (l : Location) :
    (g.hint declared id l).outcome = faultOr (g.fault? id l) ((g.inline id).hintTree declared) :=
  (g.inline id).outcome_hint declared l

theorem outcome_converter (g : Graph) (d : Direction) (id : TypeId) (l : Location) :
    (g.converter d id l).outcome = faultOr (g.fault? id l) ((g.inline id).converterTree d) :=
  (g.inline id).outcome_convert d l

theorem outcome_propertyHint (g : Graph) (declared : TypeId → Bool) (property : Property)
    (l : Location) :
    (g.propertyHint declared property l).outcome =
      faultOr (g.fault? property.type l) (g.propertyHintTree declared property) := by
  have plain := g.outcome_hint declared property.type l
  unfold propertyHint propertyHintTree wraps
  cases property.optional && !g.acceptsNull property.type with
  | false => exact plain
  | true => exact Recorded.outcome_bind_total plain fun _ => rfl

theorem outcome_propertyConverter (g : Graph) (d : Direction) (property : Property)
    (l : Location) :
    (g.propertyConverter d property l).outcome =
      faultOr (g.fault? property.type l) (g.propertyConverterTree d property) := by
  have plain := g.outcome_converter d property.type l
  unfold propertyConverter propertyConverterTree wraps
  cases property.optional && !g.acceptsNull property.type with
  | false =>
    simp only [Bool.false_eq_true, if_false, bind_pure]
    exact plain
  | true => exact Recorded.outcome_bind_total plain fun _ => rfl

theorem isUnwritable_of_fault? {g : Graph} (acyclic : g.InlineAcyclic) {id : TypeId} {l : Location}
    {fault : Fault} (h : g.fault? id l = some fault) : fault.IsUnwritable :=
  Inline.isUnwritable_of_fault? (finished_inline acyclic id) h

end Graph

/-- Three outcomes: all values if a type can be written, and otherwise all the fault that says why
not. -/
def EndAlike {α β γ : Type} (writable : Prop) (a : Except Fault α) (b : Except Fault β)
    (c : Except Fault γ) : Prop :=
  (writable ∧ ∃ x y z, a = .ok x ∧ b = .ok y ∧ c = .ok z) ∨
    (¬ writable ∧ ∃ fault, fault.IsUnwritable ∧ a = .error fault ∧ b = .error fault ∧
      c = .error fault)

namespace Graph

theorem endAlike_faultOr {α β γ : Type} {g : Graph} (acyclic : g.InlineAcyclic) (id : TypeId)
    (l : Location) (x : α) (y : β) (z : γ) :
    EndAlike (g.inline id).Writable (faultOr (g.fault? id l) x) (faultOr (g.fault? id l) y)
      (faultOr (g.fault? id l) z) := by
  have writable : g.fault? id l = none ↔ (g.inline id).Writable :=
    (g.inline id).fault?_eq_none_iff l
  cases stops : g.fault? id l with
  | none => exact .inl ⟨writable.mp stops, x, y, z, rfl, rfl, rfl⟩
  | some fault =>
    have broken : ¬ (g.inline id).Writable := fun h => by
      rw [writable.mpr h] at stops
      cases stops
    exact .inr ⟨broken, fault, isUnwritable_of_fault? acyclic stops, rfl, rfl, rfl⟩

/-- A hint and the converters of both directions end alike, for types and for properties: all give
a value if the type can be written, and otherwise all stop at the same fault at the same place. What
was declared, imported or used before makes no difference. -/
theorem hint_and_converters_end_alike {g : Graph} (acyclic : g.InlineAcyclic)
    (hinting decoding encoding : Draft) (l : Location) :
    (∀ id, EndAlike (g.inline id).Writable
      ((Writing.importing (g.hint hinting.progress.isDeclared id l)).on hinting).1
      ((Writing.combining (g.converter .fromJson id l)).on decoding).1
      ((Writing.combining (g.converter .toJson id l)).on encoding).1) ∧
    ∀ property, EndAlike (g.inline property.type).Writable
      ((Writing.importing (g.propertyHint hinting.progress.isDeclared property l)).on hinting).1
      ((Writing.combining (g.propertyConverter .fromJson property l)).on decoding).1
      ((Writing.combining (g.propertyConverter .toJson property l)).on encoding).1 := by
  simp only [Writing.on_importing, Writing.on_combining]
  constructor
  · intro id
    rw [outcome_hint, outcome_converter, outcome_converter]
    exact endAlike_faultOr acyclic id l _ _ _
  · intro property
    rw [outcome_propertyHint, outcome_propertyConverter, outcome_propertyConverter]
    exact endAlike_faultOr acyclic property.type l _ _ _

/-- An array of a union whose second member is missing. -/
def danglingMember : Graph :=
  ⟨#[.array ⟨1⟩, .union [⟨7⟩, ⟨2⟩], .primitive .integer]⟩

theorem danglingMember_ends_alike :
    danglingMember.InlineAcyclic ∧
      (danglingMember.hint (fun _ => false) ⟨0⟩ ⟨.entryPoint "Test", []⟩).outcome =
        .error (.unknownType ⟨7⟩ ⟨.entryPoint "Test", [.item, .member 1]⟩) ∧
      EndAlike (danglingMember.inline ⟨0⟩).Writable
        ((Writing.importing (danglingMember.hint Draft.empty.progress.isDeclared ⟨0⟩
          ⟨.entryPoint "Test", []⟩)).on .empty).1
        ((Writing.combining (danglingMember.converter .fromJson ⟨0⟩
          ⟨.entryPoint "Test", []⟩)).on .empty).1
        ((Writing.combining (danglingMember.converter .toJson ⟨0⟩
          ⟨.entryPoint "Test", []⟩)).on .empty).1 := by
  have acyclic : danglingMember.InlineAcyclic := inlineAcyclic_of_ascending (by decide)
  exact ⟨acyclic, rfl, (hint_and_converters_end_alike acyclic _ _ _ _).1 ⟨0⟩⟩

end Graph

end JsonBinding
