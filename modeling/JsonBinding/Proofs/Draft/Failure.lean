import JsonBinding.Proofs.Draft.Step
/-!
What is left of a request that fails. Imports may have come in addition, and a class whose body
cannot be written stays in declaration; all else is as it was (`failed_request_keeps`). The reason
is that converters are asked for only after all hints are written, and then they cannot fail.
-/
namespace JsonBinding

namespace Imports

theorem prefix_insert (imports : Imports) (i : Import) :
    imports.added <+: (imports.insert i).added := by
  unfold insert
  split
  · exact List.prefix_rfl
  · exact List.prefix_append imports.added [i]

theorem prefix_insertAll (imports : Imports) (more : List Import) :
    imports.added <+: (imports.insertAll more).added := by
  induction more generalizing imports with
  | nil => exact List.prefix_rfl
  | cons i rest ih => exact (imports.prefix_insert i).trans (ih (imports.insert i))

end Imports

/-- The faults with which a declaration is refused before its body is begun. -/
def Fault.IsRefusal : Fault → Prop
  | alreadyDeclared _ | undeclarable _ _ => True
  | unknownType _ l => ∃ id, l.root = .declaration id
  | unsupportedFormat _ _ | emptyUnion _ | endlessType _ _ => False

/-- A walk that did not start at a request to declare does not refuse one. -/
theorem Inline.not_isRefusal_of_fault? {t : Inline} {l : Location} {fault : Fault}
    (h : t.fault? l = some fault) (outside : ∀ id, l.root ≠ .declaration id) :
    ¬ fault.IsRefusal := by
  obtain ⟨steps, at'⟩ := exists_at_of_fault? h
  intro refusal
  cases at' with
  | unsupportedFormat f => exact refusal
  | unknownType id =>
    obtain ⟨declared, root⟩ := refusal
    exact outside declared root
  | emptyUnion => exact refusal
  | endlessType id => exact refusal

namespace Plan

theorem exists_property_of_bodyFault? {plan : Plan} {c : ClassType} {fault : Fault}
    (h : plan.bodyFault? c = some fault) :
    ∃ entry ∈ c.properties.entries,
      plan.graph.fault? entry.2.type (propertyLocation c entry.1) = some fault := by
  obtain ⟨entry, listed, found⟩ := List.exists_of_findSome?_eq_some h
  exact ⟨entry, listed, found⟩

theorem not_isRefusal_of_bodyFault? {plan : Plan} {c : ClassType} {fault : Fault}
    (h : plan.bodyFault? c = some fault) : ¬ fault.IsRefusal := by
  obtain ⟨entry, _, found⟩ := exists_property_of_bodyFault? h
  exact Inline.not_isRefusal_of_fault? found fun _ same => nomatch same

/-- Writing the body of a class ends in a fault, whatever was written before. -/
def FailsInBody (plan : Plan) (id : TypeId) (fault : Fault) : Prop :=
  ∃ c, plan.graph.get? id = some (.classType c) ∧
    ∀ draft, ((plan.classBody id c).on draft).1 = .error fault

theorem failsInBody_iff {plan : Plan} {id : TypeId} {fault : Fault} :
    plan.FailsInBody id fault ↔
      ∃ c, plan.graph.get? id = some (.classType c) ∧ plan.bodyFault? c = some fault := by
  constructor
  · rintro ⟨c, found, fails⟩
    refine ⟨c, found, ?_⟩
    have fails := fails .empty
    cases body : plan.bodyFault? c with
    | none =>
      rw [on_classBody_of_sound body] at fails
      cases fails
    | some fault =>
      rw [on_classBody_of_fault body] at fails
      exact congrArg some (Except.error.inj fails)
  · rintro ⟨c, found, broken⟩
    exact ⟨c, found, fun draft => by rw [on_classBody_of_fault broken]⟩

theorem FailsInBody.not_isRefusal {plan : Plan} {id : TypeId} {fault : Fault}
    (fails : plan.FailsInBody id fault) : ¬ fault.IsRefusal := by
  obtain ⟨c, _, broken⟩ := failsInBody_iff.mp fails
  exact not_isRefusal_of_bodyFault? broken

/-- A request begins the body of a class and breaks off in it. -/
structure BreaksOff (plan : Plan) (draft : Draft) (request : Request) (fault : Fault)
    (id : TypeId) : Prop where
  requested : request = .declare id
  unseen : draft.progress.state id = .unseen
  fails : plan.FailsInBody id fault

/-- A request that fails keeps the support functions, the blocks and the entry points, and adds
imports at most. Only one that breaks off in the body of a class changes the progress, and of that
class alone. A declaration that is refused changes nothing at all. Once its hints are written, no
class and no entry point fails for want of a converter. -/
theorem failed_request_keeps (plan : Plan) :
    (∀ draft request fault after, (plan.perform request).on draft = (.error fault, after) →
      after.combinators = draft.combinators ∧ after.blocks = draft.blocks ∧
      after.entryPoints = draft.entryPoints ∧ draft.imports.added <+: after.imports.added ∧
      (∀ id, plan.BreaksOff draft request fault id →
        after.progress = draft.progress.set id .inDeclaration) ∧
      ((∀ id, ¬ plan.BreaksOff draft request fault id) → after.progress = draft.progress) ∧
      (fault.IsRefusal → after = draft)) ∧
    (∀ declared id c fields, (plan.fields declared id c).outcome = .ok fields →
      ∀ d, ∃ converters, (plan.converters d c).outcome = .ok converters) ∧
    ∀ declared id l hint, (plan.graph.hint declared id l).outcome = .ok hint →
      ∀ d, ∃ converter, (plan.graph.converter d id l).outcome = .ok converter := by
  refine ⟨?_, ?_, ?_⟩
  · intro draft request fault after failed
    have step := plan.step_perform draft request
    rw [failed] at step
    cases step with
    | unknown found =>
      refine ⟨rfl, rfl, rfl, List.prefix_rfl, ?_, fun _ => rfl, fun _ => rfl⟩
      intro id breaks
      exact absurd ⟨_, rfl⟩ breaks.fails.not_isRefusal
    | undeclarable found unnamed =>
      refine ⟨rfl, rfl, rfl, List.prefix_rfl, ?_, fun _ => rfl, fun _ => rfl⟩
      intro id breaks
      exact absurd trivial breaks.fails.not_isRefusal
    | again found named started =>
      refine ⟨rfl, rfl, rfl, List.prefix_rfl, ?_, fun _ => rfl, fun _ => rfl⟩
      intro id breaks
      exact absurd trivial breaks.fails.not_isRefusal
    | @brokenClass id c _ found unseen broken =>
      have breaks : plan.BreaksOff draft (.declare id) fault id :=
        ⟨rfl, unseen, failsInBody_iff.mpr ⟨c, found, broken⟩⟩
      refine ⟨rfl, rfl, rfl, ?_, ?_, fun none => absurd breaks (none id), ?_⟩
      · exact (Imports.prefix_insertAll _ _).trans (Imports.prefix_insertAll _ _)
      · intro other breaks
        cases breaks.requested
        rfl
      · exact fun refusal => absurd refusal breaks.fails.not_isRefusal
    | brokenEntryPoint types broken =>
      refine ⟨rfl, rfl, rfl, Imports.prefix_insertAll _ _, ?_, fun _ => rfl, fun refusal => ?_⟩
      · intro id breaks
        cases breaks.requested
      · have outside := Inline.not_isRefusal_of_fault? broken fun _ same => nomatch same
        exact absurd refusal outside
  · intro declared id c fields written d
    rw [outcome_fields] at written
    have sound := (eq_of_faultOr_eq_ok written).1
    rw [outcome_converters, sound]
    exact ⟨_, rfl⟩
  · intro declared id l hint written d
    rw [Graph.outcome_hint] at written
    have sound := (eq_of_faultOr_eq_ok written).1
    rw [Graph.outcome_converter, sound]
    exact ⟨_, rfl⟩

/-- A class with a property of a type that is missing, a type without a name, and a sound class. -/
def missingRest : Plan where
  graph := ⟨#[
    .classType ⟨"Box", .ofList [("size", ⟨"size", ⟨1⟩, true⟩), ("rest", ⟨"rest", ⟨7⟩, false⟩)]⟩,
    .primitive .integer,
    .classType ⟨"Lid", .ofList [("width", ⟨"width", ⟨1⟩, false⟩)]⟩]⟩
  descriptions := .none
  options := {}

theorem missingRest_keeps :
    ((missingRest.perform (.declare ⟨0⟩)).on .empty).1 =
        .error (.unknownType ⟨7⟩ ⟨.declared "Box", [.property "rest"]⟩) ∧
      ((missingRest.perform (.declare ⟨0⟩)).on .empty).2.combinators = .empty ∧
      ((missingRest.perform (.declare ⟨0⟩)).on .empty).2.progress =
        Progress.empty.set ⟨0⟩ .inDeclaration ∧
      ((missingRest.perform (.declare ⟨1⟩)).on .empty).2 = .empty ∧
      (∃ converters, (missingRest.converters .toJson
        ⟨"Lid", .ofList [("width", ⟨"width", ⟨1⟩, false⟩)]⟩).outcome = .ok converters) ∧
      ∃ converter, (missingRest.graph.converter .fromJson ⟨1⟩ ⟨.entryPoint "Test", []⟩).outcome =
        .ok converter := by
  obtain ⟨requests, classes, entryPoints⟩ := failed_request_keeps missingRest
  obtain ⟨combinators, -, -, -, breaks, -, -⟩ := requests .empty (.declare ⟨0⟩) _ _ rfl
  obtain ⟨-, -, -, -, -, -, refused⟩ := requests .empty (.declare ⟨1⟩) _ _ rfl
  have inBody : missingRest.BreaksOff .empty (.declare ⟨0⟩)
      (.unknownType ⟨7⟩ ⟨.declared "Box", [.property "rest"]⟩) ⟨0⟩ :=
    ⟨rfl, rfl, _, rfl, fun _ => rfl⟩
  exact ⟨rfl, combinators, breaks ⟨0⟩ inBody, refused trivial,
    classes (fun _ => false) ⟨2⟩ _ _ rfl .toJson,
    entryPoints (fun _ => false) ⟨1⟩ ⟨.entryPoint "Test", []⟩ .int rfl .fromJson⟩

end Plan

end JsonBinding
