import JsonBinding.Draft.Module
import JsonBinding.Proofs.Draft.Ledger
import JsonBinding.Proofs.Inline.Renderable
/-!
When a module is generated. A module is the text of the run of all its requests, and there is one
iff every request of this run succeeds (`generate_eq_ok_iff`). A request to declare a type succeeds
iff the type is unseen, is a class or an enum, and all properties of a class can be written; one for
an entry point succeeds iff its type can be written or there are no entry points at all. Hence what
has to hold of the order, the entry points and the graph can be said in advance
(`generate_succeeds_iff`).
-/
namespace JsonBinding

def Request.type : Request → TypeId
  | .declare id => id
  | .entryPoint _ id => id

def Request.declares? : Request → Option TypeId
  | .declare id => some id
  | .entryPoint _ _ => none

namespace Plan

variable {plan : Plan}

/-- A run up to the first fault is a whole run in which every request succeeds, or ends with the
fault of a request that fails. -/
theorem on_performUntilFault (plan : Plan) (requests : List Request) (draft : Draft) :
    (AllSucceed (plan.attempts requests draft) ∧
      (plan.performUntilFault requests).on draft = (.ok (), plan.after requests draft)) ∨
    ∃ request fault, (request, .error fault) ∈ plan.attempts requests draft ∧
      ((plan.performUntilFault requests).on draft).1 = .error fault := by
  induction requests generalizing draft with
  | nil => exact .inl ⟨allSucceed_nil, rfl⟩
  | cons request rest ih =>
    rw [attempts_cons, allSucceed_cons, after_cons, performUntilFault, Writing.on_bind]
    generalize (plan.perform request).on draft = result
    obtain ⟨outcome, next⟩ := result
    cases outcome with
    | error fault =>
      exact .inr ⟨request, fault, List.mem_cons_self, rfl⟩
    | ok _ =>
      rcases ih next with ⟨succeed, whole⟩ | ⟨failed, fault, among, ends⟩
      · exact .inl ⟨⟨rfl, succeed⟩, whole⟩
      · exact .inr ⟨failed, fault, List.mem_cons_of_mem _ among, ends⟩

theorem not_allSucceed_of_mem {history : List Attempt} {request : Request} {fault : Fault}
    (among : (request, .error fault) ∈ history) : ¬ AllSucceed history := by
  intro succeed
  cases succeed _ among

theorem generate_eq_ok_iff (plan : Plan) (order : List TypeId)
    (entryPoints : OrderedMap String TypeId) (text : String) :
    plan.generate order entryPoints = .ok text ↔
      AllSucceed (plan.history (requests order entryPoints)) ∧
        (plan.draftOf (requests order entryPoints)).text plan.options = text := by
  unfold generate
  rcases plan.on_performUntilFault (requests order entryPoints) .empty with
    ⟨succeed, whole⟩ | ⟨request, fault, among, ends⟩
  · rw [whole]
    constructor
    · intro generated
      exact ⟨succeed, Except.ok.inj generated⟩
    · rintro ⟨_, rfl⟩
      rfl
  · constructor
    · intro generated
      rw [← Prod.eta ((plan.performUntilFault _).on _), ends] at generated
      cases generated
    · rintro ⟨succeed, _⟩
      exact absurd succeed (not_allSucceed_of_mem among)

/-- A module is refused with the fault of one of its requests. -/
theorem exists_attempt_of_generate {order : List TypeId} {entryPoints : OrderedMap String TypeId}
    {fault : Fault} (refused : plan.generate order entryPoints = .error fault) :
    ∃ request, (request, .error fault) ∈ plan.history (requests order entryPoints) := by
  unfold generate at refused
  rcases plan.on_performUntilFault (requests order entryPoints) .empty with
    ⟨_, whole⟩ | ⟨request, first, among, ends⟩
  · rw [whole] at refused
    cases refused
  · rw [← Prod.eta ((plan.performUntilFault _).on _), ends] at refused
    cases refused
    exact ⟨request, among⟩

theorem exists_step_of_mem_attempts {requests : List Request} {draft : Draft} {attempt : Attempt}
    (among : attempt ∈ plan.attempts requests draft) :
    ∃ before next, plan.Step before attempt.1 attempt.2 next := by
  obtain ⟨_, _, _, step⟩ := exists_cut_of_mem_attempts among
  exact ⟨_, _, step⟩

theorem allSucceed_history {requests : List Request}
    (each : ∀ earlier request later, requests = earlier ++ request :: later →
      AllSucceed (plan.history earlier) →
      ((plan.perform request).on (plan.draftOf earlier)).1 = .ok ()) :
    AllSucceed (plan.history requests) := by
  induction requests using List.reverseRecOn with
  | nil => exact allSucceed_nil
  | append_singleton earlier request ih =>
    have past : AllSucceed (plan.history earlier) := ih fun first middle last cut =>
      each first middle (last ++ [request]) (by rw [cut, List.append_assoc, List.cons_append])
    have last := each earlier request [] rfl past
    unfold history
    rw [attempts_append, allSucceed_append, attempts_cons, allSucceed_cons]
    exact ⟨past, last, allSucceed_nil⟩

/-- Where every request succeeds, what was declared is what was asked for. -/
theorem declarations_of_allSucceed {requests : List Request}
    (succeed : AllSucceed (plan.history requests)) :
    declarations (plan.history requests) = requests.filterMap Request.declares? := by
  have performed := plan.map_fst_attempts requests .empty
  have same : ∀ attempt ∈ plan.history requests,
      attempt.declares? = (Request.declares? ∘ Prod.fst) attempt := by
    rintro ⟨request, outcome⟩ among
    cases succeed _ among
    cases request <;> rfl
  calc declarations (plan.history requests)
      = (plan.history requests).filterMap (Request.declares? ∘ Prod.fst) :=
        List.filterMap_congr same
    _ = ((plan.history requests).map Prod.fst).filterMap Request.declares? :=
        List.filterMap_map.symm
    _ = requests.filterMap Request.declares? := by rw [history, performed]

theorem filterMap_declares?_declarations (order : List TypeId) :
    (order.map Request.declare).filterMap Request.declares? = order := by
  rw [List.filterMap_map]
  exact List.filterMap_some

theorem filterMap_declares?_requests (order : List TypeId)
    (entryPoints : OrderedMap String TypeId) :
    (requests order entryPoints).filterMap Request.declares? = order := by
  unfold requests
  rw [List.filterMap_append, filterMap_declares?_declarations, List.append_right_eq_self,
    List.filterMap_map, List.filterMap_eq_nil_iff]
  exact fun _ _ => rfl

theorem unseen_iff_of_allSucceed {requests : List Request}
    (succeed : AllSucceed (plan.history requests)) (id : TypeId) :
    (plan.draftOf requests).progress.state id = .unseen ↔
      id ∉ requests.filterMap Request.declares? := by
  have h := plan.ledger requests
  have whole : (plan.draftOf requests).progress.state id ≠ .inDeclaration := by
    rw [ne_eq, h.inDeclaration id]
    rintro ⟨_, among, fault, rfl, _⟩
    exact not_allSucceed_of_mem among succeed
  rw [← declarations_of_allSucceed succeed, ← h.declared id]
  cases state : (plan.draftOf requests).progress.state id with
  | unseen => decide
  | inDeclaration => exact absurd state whole
  | declared => decide

theorem bodyFault?_eq_none_iff (acyclic : plan.graph.InlineAcyclic) (c : ClassType) :
    plan.bodyFault? c = none ↔
      ∀ property ∈ c.properties.values, plan.graph.Renderable property.type := by
  unfold bodyFault? OrderedMap.values
  rw [List.findSome?_eq_none_iff, List.forall_mem_map]
  exact forall₂_congr fun entry _ =>
    Graph.fault?_eq_none_iff_renderable acyclic entry.2.type (propertyLocation c entry.1)

/-- A class or an enum, and a class of which all properties can be written. -/
def Declarable (plan : Plan) (id : TypeId) : Prop :=
  ((∃ c, plan.graph.get? id = some (.classType c)) ∨
    ∃ e, plan.graph.get? id = some (.enumType e)) ∧
  ∀ c, plan.graph.get? id = some (.classType c) →
    ∀ property ∈ c.properties.values, plan.graph.Renderable property.type

theorem Step.declare_ok_iff (acyclic : plan.graph.InlineAcyclic) {draft next : Draft} {id : TypeId}
    {outcome : Except Fault Unit} (step : plan.Step draft (.declare id) outcome next) :
    outcome = .ok () ↔ draft.progress.state id = .unseen ∧ plan.Declarable id := by
  cases step with
  | unknown found =>
    refine iff_of_false nofun ?_
    rintro ⟨_, ⟨c, found'⟩ | ⟨e, found'⟩, _⟩ <;> cases found.symm.trans found'
  | undeclarable found unnamed =>
    refine iff_of_false nofun ?_
    rintro ⟨_, ⟨c, found'⟩ | ⟨e, found'⟩, _⟩ <;> cases found.symm.trans found' <;> cases unnamed
  | again found named started => exact iff_of_false nofun fun h => started h.1
  | @brokenClass _ c fault found unseen broken =>
    refine iff_of_false nofun fun h => ?_
    have sound := (bodyFault?_eq_none_iff acyclic c).mpr (h.2.2 c found)
    cases broken.symm.trans sound
  | @soundClass _ c found unseen sound =>
    refine iff_of_true rfl ⟨unseen, .inl ⟨c, found⟩, fun c' found' => ?_⟩
    cases found.symm.trans found'
    exact (bodyFault?_eq_none_iff acyclic c).mp sound
  | @enum _ e found unseen =>
    refine iff_of_true rfl ⟨unseen, .inr ⟨e, found⟩, fun c found' => ?_⟩
    cases found.symm.trans found'

theorem Step.entryPoint_ok_iff (acyclic : plan.graph.InlineAcyclic) {draft next : Draft}
    {name : String} {id : TypeId} {outcome : Except Fault Unit}
    (step : plan.Step draft (.entryPoint name id) outcome next) :
    outcome = .ok () ↔ plan.options.justTypes = true ∨ plan.graph.Renderable id := by
  cases step with
  | passedOver types => exact iff_of_true rfl (.inl types)
  | brokenEntryPoint types broken =>
    rw [← Graph.fault?_eq_none_iff_renderable acyclic id (entryLocation name), types, broken]
    simp
  | soundEntryPoint types sound =>
    exact iff_of_true rfl (.inr ((Graph.fault?_eq_none_iff_renderable acyclic _ _).mp sound))

theorem exists_step_of_allSucceed {requests : List Request}
    (succeed : AllSucceed (plan.history requests)) {request : Request}
    (among : request ∈ requests) : ∃ before next, plan.Step before request (.ok ()) next := by
  rw [← plan.map_fst_attempts requests .empty] at among
  obtain ⟨attempt, tried, rfl⟩ := List.mem_map.mp among
  have step := exists_step_of_mem_attempts tried
  rwa [succeed attempt tried] at step

theorem mem_requests_declare {order : List TypeId} {entryPoints : OrderedMap String TypeId}
    {id : TypeId} : .declare id ∈ requests order entryPoints ↔ id ∈ order := by
  simp [requests]

theorem mem_requests_entryPoint {order : List TypeId} {entryPoints : OrderedMap String TypeId}
    {name : String} {id : TypeId} :
    .entryPoint name id ∈ requests order entryPoints ↔ (name, id) ∈ entryPoints.entries := by
  simp [requests]

theorem allSucceed_requests (acyclic : plan.graph.InlineAcyclic) {order : List TypeId}
    {entryPoints : OrderedMap String TypeId} (nodup : order.Nodup)
    (declarable : ∀ id ∈ order, plan.Declarable id)
    (enterable : plan.options.justTypes = true ∨
      ∀ id ∈ entryPoints.values, plan.graph.Renderable id) :
    AllSucceed (plan.history (requests order entryPoints)) := by
  refine allSucceed_history fun earlier request later cut past => ?_
  have among : request ∈ requests order entryPoints := by
    rw [cut]
    exact List.mem_append_right _ List.mem_cons_self
  have step := plan.step_perform (plan.draftOf earlier) request
  cases request with
  | declare id =>
    refine (step.declare_ok_iff acyclic).mpr ⟨?_, declarable id (mem_requests_declare.mp among)⟩
    have asks : (Request.declare id).declares? = some id := rfl
    have asked := filterMap_declares?_requests order entryPoints
    rw [cut, List.filterMap_append, List.filterMap_cons_some asks] at asked
    rw [← asked] at nodup
    rw [unseen_iff_of_allSucceed past]
    exact fun before => (List.nodup_append.mp nodup).2.2 id before id List.mem_cons_self rfl
  | entryPoint name id =>
    refine (step.entryPoint_ok_iff acyclic).mpr (enterable.imp_right fun all => all id ?_)
    exact List.mem_map_of_mem (mem_requests_entryPoint.mp among)

/-- The requests for a module all succeed iff the types to declare are different and can be
declared, and the types of the entry points can be written unless these are left out. -/
theorem allSucceed_requests_iff (acyclic : plan.graph.InlineAcyclic) (order : List TypeId)
    (entryPoints : OrderedMap String TypeId) :
    AllSucceed (plan.history (requests order entryPoints)) ↔
      order.Nodup ∧ (∀ id ∈ order, plan.Declarable id) ∧
        (plan.options.justTypes = true ∨
          ∀ id ∈ entryPoints.values, plan.graph.Renderable id) := by
  constructor
  · intro succeed
    refine ⟨?_, ?_, ?_⟩
    · rw [← filterMap_declares?_requests order entryPoints, ← declarations_of_allSucceed succeed]
      exact (plan.ledger _).nodup
    · intro id ordered
      obtain ⟨before, next, step⟩ :=
        exists_step_of_allSucceed succeed (mem_requests_declare.mpr ordered)
      exact ((step.declare_ok_iff acyclic).mp rfl).2
    · by_cases types : plan.options.justTypes = true
      · exact .inl types
      · refine .inr fun id entered => ?_
        obtain ⟨⟨name, _⟩, listed, rfl⟩ := List.mem_map.mp entered
        obtain ⟨before, next, step⟩ :=
          exists_step_of_allSucceed succeed (mem_requests_entryPoint.mpr listed)
        exact ((step.entryPoint_ok_iff acyclic).mp rfl).resolve_left types
  · rintro ⟨nodup, declarable, enterable⟩
    exact allSucceed_requests acyclic nodup declarable enterable

theorem Step.ne_unknownType {draft next : Draft} {request : Request}
    {outcome : Except Fault Unit} (step : plan.Step draft request outcome next)
    (resolves : plan.graph.Resolves) (inside : (plan.graph.get? request.type).isSome)
    (id : TypeId) (place : Location) : outcome ≠ .error (.unknownType id place) := by
  intro ends
  cases step with
  | unknown found =>
    rw [Request.type, found] at inside
    cases inside
  | undeclarable found unnamed => cases ends
  | again found named started => cases ends
  | @brokenClass _ c fault found unseen broken =>
    cases ends
    obtain ⟨entry, listed, stops⟩ := exists_property_of_bodyFault? broken
    have refers : entry.2.type ∈ (Node.classType c).references :=
      List.mem_map_of_mem (List.mem_map_of_mem listed)
    exact Graph.fault?_ne_unknownType resolves (resolves _ _ found _ refers) _ _ _ stops
  | brokenEntryPoint types broken =>
    cases ends
    exact Graph.fault?_ne_unknownType resolves inside _ _ _ broken
  | soundClass found unseen sound => cases ends
  | enum found unseen => cases ends
  | passedOver types => cases ends
  | soundEntryPoint types sound => cases ends

/-- A module is generated iff the types in the order of declaration are all different, each of them
is a class or an enum, all properties of these classes can be written, and so can the types of all
entry points unless the module is of types alone. If all references of the graph resolve and all
types asked for are in the graph, no module is refused for an unknown type. -/
theorem generate_succeeds_iff {plan : Plan} (acyclic : plan.graph.InlineAcyclic)
    (order : List TypeId) (entryPoints : OrderedMap String TypeId) :
    ((∃ text, plan.generate order entryPoints = .ok text) ↔
      order.Nodup ∧
      (∀ id ∈ order, (∃ c, plan.graph.get? id = some (.classType c)) ∨
        ∃ e, plan.graph.get? id = some (.enumType e)) ∧
      (∀ id ∈ order, ∀ c, plan.graph.get? id = some (.classType c) →
        ∀ property ∈ c.properties.values, plan.graph.Renderable property.type) ∧
      (plan.options.justTypes = true ∨
        ∀ id ∈ entryPoints.values, plan.graph.Renderable id)) ∧
    (plan.graph.danglingReference? = none →
      (∀ id ∈ order, id.toNat < plan.graph.size) →
      (∀ id ∈ entryPoints.values, id.toNat < plan.graph.size) →
      ∀ id place, plan.generate order entryPoints ≠ .error (.unknownType id place)) := by
  constructor
  · simp only [generate_eq_ok_iff, exists_and_left, exists_eq', and_true]
    rw [allSucceed_requests_iff acyclic]
    exact and_congr_right fun _ => by simp only [Declarable, forall_and, and_assoc]
  · intro sound ordered entered id place refused
    have inside : ∀ request ∈ requests order entryPoints,
        (plan.graph.get? request.type).isSome := by
      intro request among
      rw [Option.isSome_iff_ne_none, ne_eq, Graph.get?_eq_none_iff, Nat.not_le]
      cases request with
      | declare id => exact ordered id (mem_requests_declare.mp among)
      | entryPoint name id =>
        exact entered id (List.mem_map_of_mem (mem_requests_entryPoint.mp among))
    obtain ⟨request, tried⟩ := exists_attempt_of_generate refused
    have among : request ∈ requests order entryPoints := by
      rw [← plan.map_fst_attempts (requests order entryPoints) .empty]
      exact List.mem_map_of_mem tried
    obtain ⟨before, next, step⟩ := exists_step_of_mem_attempts tried
    exact step.ne_unknownType (Graph.resolves_of_danglingReference? sound) (inside request among)
      id place rfl

/-- Two classes of one name that refer to each other and to themselves, through a list and through
a union with null. -/
def twins : Plan where
  graph := ⟨#[
    .array ⟨3⟩, .union [⟨4⟩, ⟨2⟩],
    .classType ⟨"Twin", .ofList [("other", ⟨"other", ⟨3⟩, false⟩), ("self", ⟨"self", ⟨1⟩, false⟩)]⟩,
    .classType ⟨"Twin", .ofList [("first", ⟨"first", ⟨2⟩, true⟩), ("rest", ⟨"rest", ⟨0⟩, false⟩)]⟩,
    .primitive .null]⟩
  descriptions := .none
  options := {}

theorem twins_generate :
    (∃ text, twins.generate [⟨2⟩, ⟨3⟩] (.ofList [("pair", ⟨0⟩)]) = .ok text) ∧
      (¬ ∃ text, twins.generate [⟨2⟩, ⟨3⟩, ⟨2⟩] .empty = .ok text) ∧
      (∀ id place, twins.generate [⟨2⟩, ⟨0⟩] .empty ≠ .error (.unknownType id place)) := by
  have acyclic : twins.graph.InlineAcyclic := Graph.inlineAcyclic_of_ascending (by decide)
  have first : twins.graph.Renderable ⟨2⟩ := .classType rfl
  have second : twins.graph.Renderable ⟨3⟩ := .classType rfl
  have list : twins.graph.Renderable ⟨0⟩ := .array rfl second
  have nullable : twins.graph.Renderable ⟨1⟩ := by
    refine .union rfl (by decide) fun member among => ?_
    rcases List.mem_pair.mp among with rfl | rfl
    · exact .primitive rfl
    · exact first
  obtain ⟨succeeds, -⟩ := generate_succeeds_iff acyclic [⟨2⟩, ⟨3⟩] (.ofList [("pair", ⟨0⟩)])
  obtain ⟨repeats, -⟩ := generate_succeeds_iff acyclic [⟨2⟩, ⟨3⟩, ⟨2⟩] .empty
  obtain ⟨-, known⟩ := generate_succeeds_iff acyclic [⟨2⟩, ⟨0⟩] .empty
  refine ⟨succeeds.mpr ⟨by decide, ?_, ?_, .inr ?_⟩, ?_, ?_⟩
  · intro id ordered
    rcases List.mem_pair.mp ordered with rfl | rfl
    · exact .inl ⟨_, rfl⟩
    · exact .inl ⟨_, rfl⟩
  · intro id ordered c found property listed
    rcases List.mem_pair.mp ordered with rfl | rfl
    · cases found
      rcases List.mem_pair.mp listed with rfl | rfl
      · exact second
      · exact nullable
    · cases found
      rcases List.mem_pair.mp listed with rfl | rfl
      · exact first
      · exact list
  · intro id entered
    cases List.mem_singleton.mp entered
    exact list
  · intro generated
    exact absurd (repeats.mp generated).1 (by decide)
  · exact known (by decide) (by decide) (fun id entered => absurd entered List.not_mem_nil)

end Plan

end JsonBinding
