import JsonBinding.Proofs.Inline.Renderable
/-!
Where the walk for a hint or a converter stops. A place is a start and steps from there, and the
steps can be followed through the graph, with the members of a union counted in the order in which
they are written (`Graph.follow`). Most types are at fault only for what is written out inside them;
those at fault themselves are the missing ones, the unions without members and the strings of an
unknown format (`Graph.ownFault?`). A walk that goes depth first and from left to right stops at the
first of these, and the steps of the place that it reports lead there
(`walks_stop_at_first_fault`).
-/
namespace JsonBinding

namespace Location

/-- A step leads to a member that is written before that of another step. -/
inductive Step.LeftOf : Step → Step → Prop
  | member {i j : Nat} : i < j → LeftOf (.member i) (.member j)

/-- Steps are taken before others in a walk that goes depth first and from left to right. -/
abbrev Earlier : List Step → List Step → Prop :=
  List.Lex Step.LeftOf

theorem Step.LeftOf.asymm {s t : Step} (left : s.LeftOf t) : ¬ t.LeftOf s := by
  intro right
  obtain ⟨less⟩ := left
  obtain ⟨more⟩ := right
  exact Nat.lt_asymm less more

theorem text_extend (l : Location) (steps : List Step) :
    (l.extend steps).text = steps.foldl (fun shown s => shown ++ s.text) l.text := by
  induction steps generalizing l with
  | nil => rw [extend_nil, List.foldl_nil]
  | cons s rest ih => rw [← extend_step, ih, text_step, List.foldl_cons]

end Location

open Location (Earlier)

namespace Graph

def next? (g : Graph) (id : TypeId) (s : Location.Step) : Option TypeId :=
  match g.get? id, s with
  | some (.array items), .item => some items
  | some (.map values), .value => some values
  | some (.union members), .member i => (g.memberOrder members)[i]?
  | _, _ => none

/-- The type that steps lead to, one after another. -/
def follow (g : Graph) : TypeId → List Location.Step → Option TypeId
  | id, [] => some id
  | id, s :: rest => (g.next? id s).bind fun part => g.follow part rest

/-- What is wrong with a type itself, whatever is written out inside it. -/
def ownFault? (g : Graph) (id : TypeId) (l : Location) : Option Fault :=
  match g.get? id with
  | none => some (.unknownType id l)
  | some (.union []) => some (.emptyUnion l)
  | some (.formatted .dateTime) => none
  | some (.formatted f) => some (.unsupportedFormat f l)
  | _ => none

/-- A fault of the type that some steps lead to, reported at the place of these steps. All other
steps to a type that is itself at fault come later. -/
def IsFirstFault (g : Graph) (id : TypeId) (l : Location) (fault : Fault) : Prop :=
  ∃ steps target, g.follow id steps = some target ∧
    g.ownFault? target (l.extend steps) = some fault ∧
    ∀ other reached place otherFault, g.follow id other = some reached →
      g.ownFault? reached place = some otherFault → other = steps ∨ Earlier steps other

/-- The steps from a type with the types that they lead to, from left to right. -/
def children (g : Graph) (id : TypeId) : List (Location.Step × TypeId) :=
  match g.get? id with
  | some (.array items) => [(.item, items)]
  | some (.map values) => [(.value, values)]
  | some (.union members) =>
    (g.memberOrder members).zipIdx.map fun (member, i) => (.member i, member)
  | _ => []

variable {g : Graph} {id : TypeId}

theorem mem_children_iff {s : Location.Step} {part : TypeId} :
    (s, part) ∈ g.children id ↔ g.next? id s = some part := by
  unfold children next?
  cases g.get? id with
  | none => simp
  | some node =>
    cases node with
    | array items => cases s <;> simp [eq_comm]
    | map values => cases s <;> simp [eq_comm]
    | union members =>
      cases s with
      | member i => simp [List.mem_zipIdx_iff_getElem?]
      | property name | item | value => simp
    | primitive p | classType c | enumType e | formatted f => simp

theorem pairwise_children (g : Graph) (id : TypeId) :
    (g.children id).Pairwise fun a b => a.1.LeftOf b.1 := by
  unfold children
  split
  · exact List.pairwise_singleton _ _
  · exact List.pairwise_singleton _ _
  · next members _ =>
    rw [List.pairwise_map]
    have indices : ((g.memberOrder members).zipIdx.map Prod.snd).Pairwise (· < ·) := by
      rw [List.zipIdx_map_snd]
      exact List.pairwise_lt_range'
    rw [List.pairwise_map] at indices
    exact indices.imp .member
  · exact List.Pairwise.nil

theorem contains_of_mem_children {entry : Location.Step × TypeId} (among : entry ∈ g.children id) :
    g.Contains id entry.2 := by
  unfold children at among
  split at among
  · next items found =>
    cases List.mem_singleton.mp among
    exact ⟨_, found, List.mem_singleton_self items⟩
  · next values found =>
    cases List.mem_singleton.mp among
    exact ⟨_, found, List.mem_singleton_self values⟩
  · next members found =>
    obtain ⟨⟨member, i⟩, listed, rfl⟩ := List.mem_map.mp among
    have ordered : member ∈ g.memberOrder members := List.fst_mem_of_mem_zipIdx listed
    exact ⟨_, found, (g.memberOrder_perm members).mem_iff.mp ordered⟩
  · cases among

end Graph

namespace Graph

variable {g : Graph} {id : TypeId}

theorem fault?_of_isNull (null : g.isNull id = true) (l : Location) : g.fault? id l = none := by
  unfold fault? inline
  rw [expand_succ, layer, get?_of_isNull null]
  rfl

theorem fault?_members (g : Graph) (ordered : List TypeId) (l : Location) :
    (Inline.union (ordered.map g.inline)).fault? l =
      ordered.zipIdx.findSome? fun (member, i) => g.fault? member (l.member i) := by
  rw [Inline.fault?, Inline.memberFault?_eq_findSome?, List.zipIdx_map, List.findSome?_map]
  rfl

theorem fault?_union (acyclic : g.InlineAcyclic) {members : List TypeId} (nonempty : members ≠ [])
    (found : g.get? id = some (.union members)) (l : Location) :
    g.fault? id l =
      (g.memberOrder members).zipIdx.findSome? fun (member, i) => g.fault? member (l.member i) := by
  have perm := g.memberOrder_perm members
  unfold fault?
  rw [inline_eq acyclic, layer, found]
  dsimp only
  unfold unionShape
  cases order : g.memberOrder members with
  | nil =>
    rw [order] at perm
    exact absurd perm.nil_eq.symm nonempty
  | cons first others =>
    rcases others with _ | ⟨second, _ | ⟨third, rest⟩⟩
    · exact List.findSome?_singleton.symm
    · by_cases null : (g.isNull first && !g.isNull second) = true
      · have sound := fault?_of_isNull (Bool.and_eq_true_iff.mp null).1 (l.member 0)
        unfold fault? at sound
        simp only [null, if_true, Inline.fault?, List.zipIdx_cons, List.findSome?_cons, sound]
        exact List.findSome?_singleton.symm
      · simp only [null, Bool.false_eq_true, if_false]
        exact g.fault?_members [first, second] l
    · exact g.fault?_members (first :: second :: third :: rest) l

/-- A type is at fault itself, or else for the first of its parts that is at fault. -/
theorem fault?_eq (acyclic : g.InlineAcyclic) (id : TypeId) (l : Location) :
    g.fault? id l = (g.ownFault? id l).or
      ((g.children id).findSome? fun (s, part) => g.fault? part (l.step s)) := by
  cases found : g.get? id with
  | none =>
    unfold fault? ownFault?
    rw [inline_of_missing found, found]
    rfl
  | some node =>
    cases node with
    | union members =>
      cases members with
      | nil =>
        unfold fault? ownFault?
        rw [inline_eq acyclic, layer, found]
        rfl
      | cons first rest =>
        rw [fault?_union acyclic (List.cons_ne_nil first rest) found]
        unfold ownFault? children
        rw [found]
        dsimp only
        rw [Option.none_or, List.findSome?_map]
        rfl
    | formatted f =>
      unfold fault? ownFault? children
      rw [inline_eq acyclic, layer, found]
      cases f <;> rfl
    | primitive p | classType c | enumType e =>
      unfold fault? ownFault? children
      rw [inline_eq acyclic, layer, found]
      rfl
    | array items | map values =>
      unfold fault? ownFault? children
      rw [inline_eq acyclic, layer, found]
      exact List.findSome?_singleton.symm

theorem ownFault?_eq_none_of {l : Location} (sound : g.ownFault? id l = none) (place : Location) :
    g.ownFault? id place = none := by
  unfold ownFault? at sound ⊢
  split at sound <;> simp_all

theorem children_of_ownFault? {l : Location} {fault : Fault}
    (broken : g.ownFault? id l = some fault) : g.children id = [] := by
  unfold ownFault? at broken
  unfold children
  split at broken <;> simp_all [memberOrder]

theorem follow_cons {s : Location.Step} {rest : List Location.Step} {reached : TypeId} :
    g.follow id (s :: rest) = some reached ↔
      ∃ part, (s, part) ∈ g.children id ∧ g.follow part rest = some reached := by
  simp only [follow, Option.bind_eq_some_iff, mem_children_iff]

/-- No steps lead from a type to one that is at fault itself. -/
def Faultless (g : Graph) (id : TypeId) : Prop :=
  ∀ steps reached place, g.follow id steps = some reached → g.ownFault? reached place = none

theorem faultless_iff (l : Location) :
    g.Faultless id ↔ g.ownFault? id l = none ∧ ∀ entry ∈ g.children id, g.Faultless entry.2 := by
  constructor
  · intro faultless
    refine ⟨faultless [] id l rfl, ?_⟩
    rintro ⟨s, part⟩ among steps reached place led
    exact faultless (s :: steps) reached place (follow_cons.mpr ⟨part, among, led⟩)
  · rintro ⟨sound, parts⟩ steps reached place led
    cases steps with
    | nil =>
      cases led
      exact ownFault?_eq_none_of sound place
    | cons s rest =>
      obtain ⟨part, among, led⟩ := follow_cons.mp led
      exact parts _ among rest reached place led

theorem fault?_eq_none_iff_faultless (acyclic : g.InlineAcyclic) (id : TypeId) (l : Location) :
    g.fault? id l = none ↔ g.Faultless id := by
  induction id using acyclic.induction generalizing l with
  | _ id ih =>
    rw [fault?_eq acyclic, Option.or_eq_none_iff, List.findSome?_eq_none_iff, faultless_iff l]
    exact and_congr_right fun _ => forall₂_congr fun entry among =>
      ih entry.2 (contains_of_mem_children among) (l.step entry.1)

/-- A walk stops at a type that is at fault itself, or in one of its parts. A type that is at fault has
no parts, and the walk has come through the parts to the left without a fault. -/
theorem isFirstFault_of_fault? (acyclic : g.InlineAcyclic) {l : Location} {fault : Fault}
    (stops : g.fault? id l = some fault) : g.IsFirstFault id l fault := by
  induction id using acyclic.induction generalizing l with
  | _ id ih =>
    rw [fault?_eq acyclic, Option.or_eq_some_iff] at stops
    rcases stops with broken | ⟨sound, stops⟩
    · refine ⟨[], id, rfl, ?_, fun other reached place otherFault led _ => ?_⟩
      · rw [l.extend_nil]
        exact broken
      · cases other with
        | nil => exact .inl rfl
        | cons s rest =>
          obtain ⟨part, among, -⟩ := follow_cons.mp led
          rw [children_of_ownFault? broken] at among
          cases among
    · obtain ⟨before, ⟨s, part⟩, after, cut, stops, none⟩ := List.findSome?_eq_some_iff.mp stops
      have listed : (s, part) ∈ g.children id := by
        rw [cut]
        exact List.mem_append_right _ List.mem_cons_self
      obtain ⟨steps, target, led, broken, first⟩ := ih part (contains_of_mem_children listed) stops
      refine ⟨s :: steps, target, follow_cons.mpr ⟨part, listed, led⟩, ?_, ?_⟩
      · rw [← l.extend_step]
        exact broken
      · intro other reached place otherFault led' broken'
        cases other with
        | nil =>
          cases led'
          rw [ownFault?_eq_none_of sound place] at broken'
          cases broken'
        | cons t rest =>
          obtain ⟨sibling, among, led'⟩ := follow_cons.mp led'
          have ordered := g.pairwise_children id
          rw [cut] at among ordered
          rcases List.mem_append.mp among with left | right
          · have faultless := (fault?_eq_none_iff_faultless acyclic _ _).mp (none _ left)
            rw [faultless rest reached place led'] at broken'
            cases broken'
          · rcases List.mem_cons.mp right with same | right
            · cases same
              exact (first rest reached place otherFault led' broken').imp (congrArg _) .cons
            · have later := (List.pairwise_cons.mp (List.pairwise_append.mp ordered).2.1).1 _ right
              exact .inr (.rel later)

theorem IsFirstFault.eq {l : Location} {fault other : Fault} (h : g.IsFirstFault id l fault)
    (h' : g.IsFirstFault id l other) : fault = other := by
  obtain ⟨steps, target, led, broken, first⟩ := h
  obtain ⟨steps', target', led', broken', first'⟩ := h'
  have same : steps = steps' := by
    rcases first _ _ _ _ led' broken' with same | earlier
    · exact same.symm
    · rcases first' _ _ _ _ led broken with same | later
      · exact same
      · exact absurd later (List.lex_asymm Location.Step.LeftOf.asymm earlier)
  cases same
  cases led.symm.trans led'
  exact Option.some.inj (broken.symm.trans broken')

theorem fault?_eq_some_iff (acyclic : g.InlineAcyclic) (id : TypeId) (l : Location)
    (fault : Fault) : g.fault? id l = some fault ↔ g.IsFirstFault id l fault := by
  constructor
  · exact isFirstFault_of_fault? acyclic
  · intro first
    cases stops : g.fault? id l with
    | none =>
      obtain ⟨steps, target, led, broken, -⟩ := first
      have faultless := (fault?_eq_none_iff_faultless acyclic id l).mp stops
      rw [faultless steps target _ led] at broken
      cases broken
    | some other => rw [(isFirstFault_of_fault? acyclic stops).eq first]

end Graph

theorem faultOr_eq_error_iff {α : Type} {fault? : Option Fault} {value : α} {fault : Fault} :
    faultOr fault? value = .error fault ↔ fault? = some fault := by
  cases fault? <;> simp [faultOr]

namespace Graph

/-- Without inline cycles, a hint and the converters of both directions all stop at the first fault
in the graph, and only there. The place that is reported is where the walk started and the steps
from there, each shown behind the ones before it: `[]` for an item, `{}` for a value, and `|` with
its number for a member. -/
theorem walks_stop_at_first_fault {g : Graph} (acyclic : g.InlineAcyclic) (id : TypeId)
    (l : Location) :
    (∀ declared fault, (g.hint declared id l).outcome = .error fault ↔
      g.IsFirstFault id l fault) ∧
    (∀ d fault, (g.converter d id l).outcome = .error fault ↔ g.IsFirstFault id l fault) ∧
    (∀ steps, (l.extend steps).text = steps.foldl (fun shown s => shown ++ s.text) l.text) ∧
    Location.Step.item.text = "[]" ∧ Location.Step.value.text = "\x7b\x7d" ∧
    ∀ i, (Location.Step.member i).text = "|" ++ toString i := by
  refine ⟨?_, ?_, l.text_extend, rfl, rfl, fun _ => rfl⟩
  · intro declared fault
    rw [outcome_hint, faultOr_eq_error_iff, fault?_eq_some_iff acyclic]
  · intro d fault
    rw [outcome_converter, faultOr_eq_error_iff, fault?_eq_some_iff acyclic]

/-- A list of a union that names its members in another order than the one in which they are
written. One member holds a string of an unknown format, and another one is missing. -/
def brokenLeaves : Graph :=
  ⟨#[.array ⟨1⟩, .union [⟨9⟩, ⟨2⟩, ⟨3⟩], .map ⟨4⟩, .primitive .integer, .union [⟨5⟩, ⟨6⟩],
    .formatted .uuid, .primitive .null]⟩

theorem brokenLeaves_first_fault :
    brokenLeaves.InlineAcyclic ∧
      brokenLeaves.memberOrder [⟨9⟩, ⟨2⟩, ⟨3⟩] = [⟨3⟩, ⟨2⟩, ⟨9⟩] ∧
      brokenLeaves.follow ⟨0⟩ [.item, .member 1, .value, .member 1] = some ⟨5⟩ ∧
      brokenLeaves.IsFirstFault ⟨0⟩ ⟨.entryPoint "Test", []⟩ (.unsupportedFormat .uuid
        ⟨.entryPoint "Test", [.item, .member 1, .value, .member 1]⟩) ∧
      (brokenLeaves.converter .toJson ⟨0⟩ ⟨.entryPoint "Test", []⟩).outcome =
        .error (.unsupportedFormat .uuid
          ⟨.entryPoint "Test", [.item, .member 1, .value, .member 1]⟩) ∧
      Location.text ⟨.entryPoint "Test", [.item, .member 1, .value, .member 1]⟩ =
        "top-level `Test`[]|1\x7b\x7d|1" := by
  have acyclic : brokenLeaves.InlineAcyclic := inlineAcyclic_of_ascending (by decide)
  obtain ⟨hints, converters, places, -⟩ :=
    walks_stop_at_first_fault acyclic ⟨0⟩ ⟨.entryPoint "Test", []⟩
  have first := (hints (fun _ => false) (.unsupportedFormat .uuid
    ⟨.entryPoint "Test", [.item, .member 1, .value, .member 1]⟩)).mp rfl
  exact ⟨acyclic, by decide, by decide, first, (converters .toJson _).mpr first,
    (places [.item, .member 1, .value, .member 1]).trans (by decide +kernel)⟩

end Graph

end JsonBinding
