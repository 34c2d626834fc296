import JsonBinding.Proofs.Draft.Failure
import JsonBinding.Proofs.Draft.Run
import Mathlib.Data.Set.Card
/-!
What the attempts of a run say of the draft that it leaves. A type is declared iff a request to
declare it succeeded, and stays in declaration iff one broke off in its body; the blocks stand in
the order in which the requests for them succeeded, and every entry point that was added is there.
The invariant is `Plan.Ledger`, which every step keeps (`Ledger.step`).
-/
namespace JsonBinding

namespace DeclState

/-- The moves of one type: it is begun, then completed. -/
inductive Next : DeclState → DeclState → Prop
  | begin : Next unseen inDeclaration
  | complete : Next inDeclaration declared

abbrev Advances : DeclState → DeclState → Prop :=
  Relation.ReflTransGen Next

theorem advances_of_unseen (s : DeclState) : unseen.Advances s := by
  cases s with
  | unseen => exact .refl
  | inDeclaration => exact .single .begin
  | declared => exact .tail (.single .begin) .complete

end DeclState

theorem ncard_eq_length {list : List TypeId} (nodup : list.Nodup) {P : TypeId → Prop}
    (listed : ∀ id, P id ↔ id ∈ list) : {id | P id}.ncard = list.length := by
  have same : {id | P id} = (list.toFinset : Set TypeId) := by
    ext id
    rw [List.coe_toFinset]
    exact listed id
  rw [same, Set.ncard_coe_finset, List.toFinset_card_of_nodup nodup]

namespace Progress

variable {p : Progress}

theorem mem_keys_set (p : Progress) (id other : TypeId) (s : DeclState) :
    other ∈ (p.set id s).states.keys ↔ other = id ∨ other ∈ p.states.keys := by
  unfold set
  rw [OrderedMap.keys_insert]
  split
  · next stored =>
    constructor
    · exact .inr
    · rintro (rfl | among)
      · exact stored
      · exact among
  · rw [List.mem_append, List.mem_singleton, or_comm]

theorem state_finish_set (p : Progress) (id other : TypeId) :
    ((p.set id .inDeclaration).finish id).state other =
      if other = id then .declared else p.state other := by
  unfold finish
  rw [state_set, state_set]
  split <;> rfl

theorem advances_of_unseen {q : Progress} {id : TypeId} {s : DeclState}
    (unseen : p.state id = .unseen)
    (state : ∀ other, q.state other = if other = id then s else p.state other) (other : TypeId) :
    (p.state other).Advances (q.state other) := by
  rw [state]
  split
  · next same =>
    rw [same, unseen]
    exact s.advances_of_unseen
  · exact .refl

def StoresBegun (p : Progress) : Prop :=
  ∀ id, id ∈ p.states.keys ↔ p.state id ≠ .unseen

theorem StoresBegun.set (h : p.StoresBegun) (id : TypeId) {s : DeclState} (begun : s ≠ .unseen) :
    (p.set id s).StoresBegun := by
  intro other
  rw [mem_keys_set, state_set]
  by_cases same : other = id
  · simp only [same, true_or, if_true, ne_eq, begun, not_false_eq_true]
  · rw [if_neg same, h other]
    simp only [same, false_or]

theorem StoresBegun.started_eq (h : p.StoresBegun) :
    p.started = {id | p.state id ≠ .unseen}.ncard := by
  rw [ncard_eq_length p.states.nodup fun id => (h id).symm]
  exact (List.length_map Prod.fst).symm

end Progress

namespace Attempt

def declares? : Attempt → Option TypeId
  | (.declare id, .ok _) => some id
  | _ => none

def enters : Attempt → Bool
  | (.entryPoint _ _, .ok _) => true
  | _ => false

theorem declares?_eq_some_iff {attempt : Attempt} {id : TypeId} :
    attempt.declares? = some id ↔ attempt = (.declare id, .ok ()) := by
  obtain ⟨request, outcome⟩ := attempt
  cases request with
  | declare other =>
    cases outcome with
    | ok _ => simp [declares?]
    | error fault => simp [declares?]
  | entryPoint name other => simp [declares?]

end Attempt

/-- The types that were declared, in the order of the attempts. -/
def declarations (history : List Attempt) : List TypeId :=
  history.filterMap Attempt.declares?

theorem mem_declarations {history : List Attempt} {id : TypeId} :
    id ∈ declarations history ↔ (.declare id, .ok ()) ∈ history := by
  unfold declarations
  rw [List.mem_filterMap]
  constructor
  · rintro ⟨attempt, among, declares⟩
    rw [Attempt.declares?_eq_some_iff] at declares
    exact declares ▸ among
  · intro among
    exact ⟨_, among, rfl⟩

theorem declarations_concat (past : List Attempt) (attempt : Attempt) :
    declarations (past ++ [attempt]) = declarations past ++ attempt.declares?.toList := by
  unfold declarations
  rw [List.filterMap_append]
  cases declares : attempt.declares? with
  | none => rw [List.filterMap_cons_none declares]; rfl
  | some id => rw [List.filterMap_cons_some declares]; rfl

theorem EntryPoint.length_helpers (entryPoints : List EntryPoint) :
    (entryPoints.flatMap EntryPoint.helpers).length =
      2 * (entryPoints.map EntryPoint.usageLine).length := by
  induction entryPoints with
  | nil => rfl
  | cons entry rest ih =>
    have two : entry.helpers.length = 2 := rfl
    rw [List.flatMap_cons, List.length_append, ih, two, List.map_cons, List.length_cons]
    omega

namespace Plan

/-- An attempt that began the body of a class and broke off in it. -/
def BrokeOff (plan : Plan) (id : TypeId) (attempt : Attempt) : Prop :=
  ∃ fault, attempt = (.declare id, .error fault) ∧ plan.FailsInBody id fault

theorem not_brokeOff_of_isRefusal {plan : Plan} {fault : Fault} (refusal : fault.IsRefusal)
    (request : Request) (id : TypeId) : ¬ plan.BrokeOff id (request, .error fault) := by
  rintro ⟨_, attempted, fails⟩
  cases attempted
  exact fails.not_isRefusal refusal

theorem not_brokeOff_of_ok (plan : Plan) (request : Request) (id : TypeId) :
    ¬ plan.BrokeOff id (request, .ok ()) := by
  rintro ⟨_, attempted, _⟩
  cases attempted

theorem exists_brokeOff_concat {plan : Plan} {id : TypeId} {past : List Attempt}
    {attempt : Attempt} :
    (∃ other ∈ past ++ [attempt], plan.BrokeOff id other) ↔
      (∃ other ∈ past, plan.BrokeOff id other) ∨ plan.BrokeOff id attempt := by
  simp only [List.mem_append, List.mem_singleton, or_and_right, exists_or, exists_eq_left]

/-- What the attempts of the past say of a draft. -/
structure Ledger (plan : Plan) (past : List Attempt) (draft : Draft) : Prop where
  blocks : draft.blocks.map Block.id = declarations past
  nodup : (declarations past).Nodup
  declared : ∀ id, draft.progress.state id = .declared ↔ id ∈ declarations past
  inDeclaration : ∀ id,
    draft.progress.state id = .inDeclaration ↔ ∃ attempt ∈ past, plan.BrokeOff id attempt
  /-- Only types with a name are ever begun. -/
  named : ∀ id, draft.progress.state id ≠ .unseen →
    ∃ node name, plan.graph.get? id = some node ∧ node.declaredName? = some name
  stored : draft.progress.StoresBegun
  entryPoints : draft.entryPoints.length =
    if plan.options.justTypes then 0 else past.countP Attempt.enters

namespace Ledger

variable {plan : Plan} {past : List Attempt} {draft next : Draft} {id : TypeId}

theorem empty (plan : Plan) : plan.Ledger [] .empty where
  blocks := rfl
  nodup := List.nodup_nil
  declared id := by
    constructor
    · intro declared
      cases declared
    · intro among
      cases among
  inDeclaration id := by
    constructor
    · intro inDeclaration
      cases inDeclaration
    · rintro ⟨attempt, among, _⟩
      cases among
  named id begun := absurd rfl begun
  stored id := by
    constructor
    · intro among
      cases among
    · intro begun
      exact absurd rfl begun
  entryPoints := by split <;> rfl

/-- An attempt that neither declares a type nor breaks off leaves the progress and the blocks. -/
theorem kept (h : plan.Ledger past draft) {attempt : Attempt}
    (silent : attempt.declares? = none) (whole : ∀ id, ¬ plan.BrokeOff id attempt)
    (progress : next.progress = draft.progress) (blocks : next.blocks = draft.blocks)
    (entryPoints : next.entryPoints.length =
      draft.entryPoints.length + if attempt.enters && !plan.options.justTypes then 1 else 0) :
    plan.Ledger (past ++ [attempt]) next := by
  have same : declarations (past ++ [attempt]) = declarations past := by
    rw [declarations_concat, silent]
    exact List.append_nil _
  refine ⟨?_, ?_, ?_, ?_, ?_, ?_, ?_⟩
  · rw [same, blocks, h.blocks]
  · rw [same]
    exact h.nodup
  · rw [same, progress]
    exact h.declared
  · intro id
    rw [progress, exists_brokeOff_concat, or_iff_left (whole id)]
    exact h.inDeclaration id
  · rw [progress]
    exact h.named
  · rw [progress]
    exact h.stored
  · rw [entryPoints, h.entryPoints, List.countP_append, List.countP_singleton]
    cases plan.options.justTypes <;> simp

theorem not_mem_declarations (h : plan.Ledger past draft)
    (unseen : draft.progress.state id = .unseen) : id ∉ declarations past := by
  intro among
  have declared := (h.declared id).mpr among
  rw [unseen] at declared
  cases declared

theorem named_set (h : plan.Ledger past draft) {node : Node} {name : String}
    (found : plan.graph.get? id = some node) (named : node.declaredName? = some name)
    {s : DeclState} {other : TypeId}
    (begun : (if other = id then s else draft.progress.state other) ≠ .unseen) :
    ∃ node name, plan.graph.get? other = some node ∧ node.declaredName? = some name := by
  by_cases same : other = id
  · exact same ▸ ⟨node, name, found, named⟩
  · rw [if_neg same] at begun
    exact h.named other begun

theorem leftOpen (h : plan.Ledger past draft) {node : Node} {name : String}
    (found : plan.graph.get? id = some node) (named : node.declaredName? = some name)
    (unseen : draft.progress.state id = .unseen) {fault : Fault}
    (fails : plan.FailsInBody id fault)
    (progress : next.progress = draft.progress.set id .inDeclaration)
    (blocks : next.blocks = draft.blocks) (entryPoints : next.entryPoints = draft.entryPoints) :
    plan.Ledger (past ++ [(.declare id, .error fault)]) next := by
  have same : declarations (past ++ [(.declare id, .error fault)]) = declarations past := by
    rw [declarations_concat]
    exact List.append_nil _
  have state : ∀ other, next.progress.state other =
      if other = id then .inDeclaration else draft.progress.state other := by
    rw [progress]
    exact fun other => draft.progress.state_set id other .inDeclaration
  refine ⟨?_, ?_, ?_, ?_, ?_, ?_, ?_⟩
  · rw [same, blocks, h.blocks]
  · rw [same]
    exact h.nodup
  · intro other
    rw [same, state]
    split
    · next this =>
      have absent := h.not_mem_declarations unseen
      rw [this, iff_false_right absent]
      exact DeclState.noConfusion
    · exact h.declared other
  · intro other
    rw [exists_brokeOff_concat, ← h.inDeclaration other, state]
    split
    · next this =>
      have brokeOff : plan.BrokeOff other (.declare id, .error fault) := by
        rw [this]
        exact ⟨fault, rfl, fails⟩
      exact ⟨fun _ => .inr brokeOff, fun _ => rfl⟩
    · next differs =>
      have whole : ¬ plan.BrokeOff other (.declare id, .error fault) := by
        rintro ⟨_, attempted, _⟩
        cases attempted
        exact differs rfl
      rw [or_iff_left whole]
  · intro other begun
    rw [state] at begun
    exact h.named_set found named begun
  · rw [progress]
    exact h.stored.set id (by decide)
  · rw [entryPoints, h.entryPoints, List.countP_append]
    rfl

theorem completed (h : plan.Ledger past draft) {node : Node} {name : String}
    (found : plan.graph.get? id = some node) (named : node.declaredName? = some name)
    (unseen : draft.progress.state id = .unseen) {block : Block} (blockId : block.id = id)
    (progress : next.progress = (draft.progress.set id .inDeclaration).finish id)
    (blocks : next.blocks = draft.blocks ++ [block])
    (entryPoints : next.entryPoints = draft.entryPoints) :
    plan.Ledger (past ++ [(.declare id, .ok ())]) next := by
  have more : declarations (past ++ [(.declare id, .ok ())]) = declarations past ++ [id] :=
    declarations_concat past _
  have absent := h.not_mem_declarations unseen
  have state : ∀ other, next.progress.state other =
      if other = id then .declared else draft.progress.state other := by
    rw [progress]
    exact fun other => draft.progress.state_finish_set id other
  refine ⟨?_, ?_, ?_, ?_, ?_, ?_, ?_⟩
  · rw [more, blocks, List.map_append, h.blocks, List.map_singleton, blockId]
  · rw [more, ← List.concat_eq_append]
    exact h.nodup.concat absent
  · intro other
    rw [more, state, List.mem_append, List.mem_singleton, ← h.declared other]
    split
    · next this => exact ⟨fun _ => .inr this, fun _ => rfl⟩
    · next differs => rw [or_iff_left differs]
  · intro other
    have whole := plan.not_brokeOff_of_ok (.declare id) other
    rw [exists_brokeOff_concat, or_iff_left whole, ← h.inDeclaration other, state]
    split
    · next this =>
      rw [this, unseen]
      decide
    · rfl
  · intro other begun
    rw [state] at begun
    exact h.named_set found named begun
  · rw [progress]
    exact (h.stored.set id (by decide)).set id (by decide)
  · rw [entryPoints, h.entryPoints, List.countP_append]
    rfl

/-- Every step keeps the ledger. Three kinds of attempts matter: those that declare a type, those
that break off, and the rest, which leave the progress and the blocks alone. -/
theorem step (h : plan.Ledger past draft) {request : Request} {outcome : Except Fault Unit}
    (step : plan.Step draft request outcome next) :
    plan.Ledger (past ++ [(request, outcome)]) next := by
  cases step with
  | unknown found =>
    refine h.kept rfl (not_brokeOff_of_isRefusal ?_ _) rfl rfl rfl
    exact ⟨_, rfl⟩
  | undeclarable found unnamed =>
    refine h.kept rfl (not_brokeOff_of_isRefusal ?_ _) rfl rfl rfl
    exact trivial
  | again found named started =>
    refine h.kept rfl (not_brokeOff_of_isRefusal ?_ _) rfl rfl rfl
    exact trivial
  | @brokenClass id c fault found unseen broken =>
    have fails : plan.FailsInBody id fault := failsInBody_iff.mpr ⟨c, found, broken⟩
    exact h.leftOpen found rfl unseen fails rfl rfl rfl
  | @soundClass id c found unseen sound =>
    have blockId : Block.id (.classBlock
        (plan.soundClassBlock (plan.begun draft id).progress.isDeclared id c)) = id := rfl
    exact h.completed found rfl unseen blockId rfl rfl (plan.withBodyNeeds_entryPoints _ id c)
  | @enum id e found unseen =>
    have blockId : Block.id (.enumBlock (plan.enumBlock id e)) = id := rfl
    exact h.completed found rfl unseen blockId rfl rfl rfl
  | passedOver types =>
    refine h.kept rfl (plan.not_brokeOff_of_ok _) rfl rfl ?_
    rw [types]
    rfl
  | brokenEntryPoint types broken =>
    refine h.kept rfl ?_ rfl rfl rfl
    rintro _ ⟨_, attempted, _⟩
    cases attempted
  | soundEntryPoint types sound =>
    refine h.kept rfl (plan.not_brokeOff_of_ok _) rfl rfl ?_
    rw [types]
    exact List.length_append

end Ledger

theorem ledger (plan : Plan) (requests : List Request) :
    plan.Ledger (plan.history requests) (plan.draftOf requests) :=
  run_induction (fun _ _ _ _ _ h step => h.step step) requests (Ledger.empty plan)

theorem Step.advances {plan : Plan} {draft next : Draft} {request : Request}
    {outcome : Except Fault Unit} (step : plan.Step draft request outcome next) (id : TypeId) :
    (draft.progress.state id).Advances (next.progress.state id) := by
  cases step with
  | unknown found => exact .refl
  | undeclarable found unnamed => exact .refl
  | again found named started => exact .refl
  | brokenClass found unseen broken =>
    exact Progress.advances_of_unseen unseen (draft.progress.state_set _ · _) id
  | soundClass found unseen sound =>
    exact Progress.advances_of_unseen unseen (draft.progress.state_finish_set _) id
  | enum found unseen =>
    exact Progress.advances_of_unseen unseen (draft.progress.state_finish_set _) id
  | passedOver types => exact .refl
  | brokenEntryPoint types broken => exact .refl
  | soundEntryPoint types sound => exact .refl

theorem advances_after (plan : Plan) (requests : List Request) (draft : Draft) (id : TypeId) :
    (draft.progress.state id).Advances ((plan.after requests draft).progress.state id) := by
  have step : ∀ (past : List Attempt) middle request outcome next,
      (draft.progress.state id).Advances (middle.progress.state id) →
        plan.Step middle request outcome next →
        (draft.progress.state id).Advances (next.progress.state id) :=
    fun _ _ _ _ _ reached step => reached.trans (step.advances id)
  exact @run_induction plan (fun _ next => (draft.progress.state id).Advances
    (next.progress.state id)) step requests [] draft .refl

theorem declares_or_breaks_off {plan : Plan} {draft : Draft} {id : TypeId} {node : Node}
    {name : String} (found : plan.graph.get? id = some node)
    (named : node.declaredName? = some name)
    (unseen : draft.progress.state id = .unseen) :
    (((plan.perform (.declare id)).on draft).1 = .ok () ∧ ∀ fault, ¬ plan.FailsInBody id fault) ∨
      plan.BrokeOff id (.declare id, ((plan.perform (.declare id)).on draft).1) := by
  have step := plan.step_perform draft (.declare id)
  generalize (plan.perform (.declare id)).on draft = result at step ⊢
  obtain ⟨outcome, next⟩ := result
  cases step with
  | unknown missing =>
    rw [found] at missing
    cases missing
  | undeclarable found' unnamed =>
    cases found.symm.trans found'
    cases named.symm.trans unnamed
  | again found' named' started => exact absurd unseen started
  | @brokenClass _ c fault found' _ broken =>
    exact .inr ⟨fault, rfl, failsInBody_iff.mpr ⟨c, found', broken⟩⟩
  | soundClass found' _ sound =>
    refine .inl ⟨rfl, fun fault fails => ?_⟩
    obtain ⟨c, found'', broken⟩ := failsInBody_iff.mp fails
    cases found'.symm.trans found''
    cases sound.symm.trans broken
  | enum found' _ =>
    refine .inl ⟨rfl, fun fault fails => ?_⟩
    obtain ⟨c, found'', _⟩ := failsInBody_iff.mp fails
    cases found'.symm.trans found''

/-- Every run begins and completes each type at most once, whatever fails on the way. In the end a
type is declared iff a request for it succeeded, and in declaration iff one broke off in its body;
it is begun for whoever asks first and refused to whoever asks again. The draft has one block for
every type that is declared, in the order of the requests, and for every entry point that was added
two helpers and one line on its use. -/
theorem declarations_of_run (plan : Plan) (requests : List Request) :
    (plan.history requests).map Prod.fst = requests ∧
    (∀ earlier later, requests = earlier ++ later → ∀ id,
      ((plan.draftOf earlier).progress.state id).Advances
        ((plan.draftOf requests).progress.state id)) ∧
    (∀ id, (plan.draftOf requests).progress.state id = .declared ↔
      (.declare id, .ok ()) ∈ plan.history requests) ∧
    (∀ id, (plan.draftOf requests).progress.state id = .inDeclaration ↔
      ∃ attempt ∈ plan.history requests, plan.BrokeOff id attempt) ∧
    (∀ id, (plan.draftOf requests).progress.state id = .unseen ↔
      (.declare id, .ok ()) ∉ plan.history requests ∧
        ∀ attempt ∈ plan.history requests, ¬ plan.BrokeOff id attempt) ∧
    (declarations (plan.history requests)).Nodup ∧
    (∀ earlier id later, requests = earlier ++ .declare id :: later →
      (plan.draftOf earlier).progress.state id ≠ .unseen →
      ∃ node name, plan.graph.get? id = some node ∧ node.declaredName? = some name ∧
        (plan.history requests)[earlier.length]? =
          some (.declare id, .error (.alreadyDeclared name))) ∧
    (∀ id node name, plan.graph.get? id = some node → node.declaredName? = some name →
      (plan.draftOf requests).progress.state id = .unseen →
      (((plan.perform (.declare id)).on (plan.draftOf requests)).1 = .ok () ∧
        ∀ fault, ¬ plan.FailsInBody id fault) ∨
      plan.BrokeOff id
        (.declare id, ((plan.perform (.declare id)).on (plan.draftOf requests)).1)) ∧
    (plan.draftOf requests).blocks.map Block.id = declarations (plan.history requests) ∧
    (plan.draftOf requests).blocks.length =
      {id | (plan.draftOf requests).progress.state id = .declared}.ncard ∧
    (plan.draftOf requests).progress.started =
      {id | (plan.draftOf requests).progress.state id ≠ .unseen}.ncard ∧
    ((plan.draftOf requests).entryPoints.flatMap EntryPoint.helpers).length =
      2 * ((plan.draftOf requests).entryPoints.map EntryPoint.usageLine).length ∧
    ((plan.draftOf requests).entryPoints.map EntryPoint.usageLine).length =
      if plan.options.justTypes then 0
      else (plan.history requests).countP Attempt.enters := by
  have h := plan.ledger requests
  refine ⟨plan.map_fst_attempts requests .empty, ?_, ?_, h.inDeclaration, ?_, h.nodup, ?_, ?_,
    h.blocks, ?_, h.stored.started_eq, ?_, ?_⟩
  · rintro earlier later rfl id
    unfold draftOf
    rw [after_append]
    exact plan.advances_after later _ id
  · intro id
    rw [h.declared id, mem_declarations]
  · intro id
    have whole : (∀ attempt ∈ plan.history requests, ¬ plan.BrokeOff id attempt) ↔
        (plan.draftOf requests).progress.state id ≠ .inDeclaration := by
      rw [ne_eq, h.inDeclaration id]
      simp only [not_exists, not_and]
    rw [← mem_declarations, ← h.declared id, whole]
    cases (plan.draftOf requests).progress.state id with
    | unseen => decide
    | inDeclaration => decide
    | declared => decide
  · rintro earlier id later rfl begun
    obtain ⟨node, name, found, named⟩ := (plan.ledger earlier).named id begun
    refine ⟨node, name, found, named, ?_⟩
    have again : (plan.perform (.declare id)).on (plan.draftOf earlier) = _ :=
      on_declare_of_started found named begun
    unfold history
    rw [attempts_append, List.getElem?_append_right (plan.length_attempts earlier .empty).le,
      length_attempts, Nat.sub_self, attempts_cons]
    exact congrArg some (congrArg (Prod.mk _) (congrArg Prod.fst again))
  · intro id node name found named unseen
    exact declares_or_breaks_off found named unseen
  · rw [ncard_eq_length h.nodup h.declared, ← h.blocks, List.length_map]
  · exact EntryPoint.length_helpers _
  · rw [List.length_map, h.entryPoints]

theorem missingRest_declarations :
    (missingRest.draftOf [.declare ⟨2⟩, .declare ⟨0⟩]).progress.state ⟨2⟩ = .declared ∧
      (missingRest.draftOf [.declare ⟨2⟩, .declare ⟨0⟩]).progress.state ⟨0⟩ = .inDeclaration ∧
      (∀ again, again = (⟨2⟩ : TypeId) ∨ again = ⟨0⟩ → ∃ node name,
        missingRest.graph.get? again = some node ∧ node.declaredName? = some name ∧
        (missingRest.history [.declare ⟨2⟩, .declare ⟨0⟩, .declare again,
          .entryPoint "lid" ⟨2⟩])[2]? =
            some (.declare again, .error (.alreadyDeclared name))) ∧
      ((missingRest.draftOf [.declare ⟨2⟩, .declare ⟨0⟩, .declare ⟨0⟩,
        .entryPoint "lid" ⟨2⟩]).entryPoints.map EntryPoint.usageLine).length = 1 := by
  have declared : (missingRest.draftOf [.declare ⟨2⟩, .declare ⟨0⟩]).progress.state ⟨2⟩ =
      .declared := rfl
  have inDeclaration : (missingRest.draftOf [.declare ⟨2⟩, .declare ⟨0⟩]).progress.state ⟨0⟩ =
      .inDeclaration := rfl
  refine ⟨declared, inDeclaration, ?_, ?_⟩
  · intro again which
    have begun : (missingRest.draftOf [.declare ⟨2⟩, .declare ⟨0⟩]).progress.state again ≠
        .unseen := by
      rcases which with rfl | rfl
      · rw [declared]
        decide
      · rw [inDeclaration]
        decide
    exact (declarations_of_run missingRest _).2.2.2.2.2.2.1 [.declare ⟨2⟩, .declare ⟨0⟩] again
      [.entryPoint "lid" ⟨2⟩] rfl begun
  · exact (declarations_of_run missingRest _).2.2.2.2.2.2.2.2.2.2.2.2

end Plan

end JsonBinding
