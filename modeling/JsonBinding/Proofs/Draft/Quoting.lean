import JsonBinding.Proofs.Draft.Generate
import JsonBinding.Proofs.Draft.Growth
import JsonBinding.Proofs.Inline.Spelling
/-!
Which references of a module are quoted. The block of a class is written when just the types before
it in the order of declaration are declared, and the helpers of entry points when all of them are;
later requests leave what was written as it is. Hence a reference is bare iff its type stands
earlier in the order than the class in which it is written (`references_quoted_until_declared`).
-/
namespace JsonBinding

open Source Text

namespace ClassBlock

variable {block : ClassBlock}

theorem fieldLine_mem_lines {field : Field} (listed : field ∈ block.body.fieldList) :
    indent (field.name ++ ": " ++ field.hint.text) ∈ block.lines := by
  have own : field.name ++ ": " ++ field.hint.text ∈ field.lines :=
    List.mem_append_right _ (List.mem_singleton_self _)
  unfold lines headLines
  refine List.mem_append_left _ (List.mem_append_right _ ?_)
  cases fields : block.body.fieldList with
  | nil =>
    rw [fields] at listed
    cases listed
  | cons first rest =>
    rw [fields] at listed
    exact List.mem_map_of_mem (List.mem_flatMap.mpr ⟨field, listed, own⟩)

theorem constructorLine_mem_lines {members : List Member} (body : block.body = .members members)
    (writtenOut : block.isDataclass = false) :
    indent ("def __init__(self" ++ String.join (block.body.fieldList.map Field.parameter) ++
      ") -> None:") ∈ block.lines := by
  have fields : block.body.fieldList = members.map (·.field) := by
    rw [body]
    rfl
  have written : constructorLines (members.map (·.field)) ∈ block.methods := by
    unfold methods
    rw [body, writtenOut]
    exact List.mem_append_left _ (List.mem_singleton_self _)
  have first := List.mem_map_of_mem (f := indent)
    (List.mem_cons_self : _ ∈ constructorLines (members.map (·.field)))
  rw [fields]
  unfold lines
  exact List.mem_append_right _
    (List.mem_flatMap.mpr ⟨_, written, List.mem_cons_of_mem _ first⟩)

end ClassBlock

namespace EntryPoint

theorem head?_readerLines (entry : EntryPoint) :
    entry.readerLines.head? = some ("def " ++ entry.function ++ "_from_dict(" ++ readerArgument ++
      ": Any) -> " ++ entry.hint.text ++ ":") := rfl

theorem head?_writerLines (entry : EntryPoint) :
    entry.writerLines.head? = some ("def " ++ entry.function ++ "_to_dict(" ++ writerArgument ++
      ": " ++ entry.hint.text ++ ") -> Any:") := rfl

end EntryPoint

namespace Plan

variable {plan : Plan}

/-- The block of a class gives every property the hint that spells it: in the line of its field, and
in the parameter of the constructor where this is written out. -/
structure SpellsClass (plan : Plan) (known : List TypeId) (c : ClassType) (block : ClassBlock) :
    Prop where
  fields : List.Forall₂ (fun entry field =>
    field.name = entry.1 ∧ plan.graph.SpellsProperty known entry.2 field.hint.text)
    c.properties.entries block.body.fieldList
  lines : ∀ field ∈ block.body.fieldList,
    indent (field.name ++ ": " ++ field.hint.text) ∈ block.lines
  parameters : plan.options.justTypes = false → plan.options.version = .v36 →
    indent ("def __init__(self" ++ String.join (block.body.fieldList.map fun field =>
      ", " ++ field.name ++ ": " ++ field.hint.text) ++ ") -> None:") ∈ block.lines

/-- The helpers of an entry point take and give what the hint of its type spells. -/
structure SpellsEntryPoint (plan : Plan) (known : List TypeId) (entry : String × TypeId)
    (point : EntryPoint) : Prop where
  function : point.function = makeName entry.1 .property
  hint : plan.graph.Spells known entry.2 point.hint.text
  reader : point.readerLines.head? = some ("def " ++ point.function ++ "_from_dict(" ++
    EntryPoint.readerArgument ++ ": Any) -> " ++ point.hint.text ++ ":")
  writer : point.writerLines.head? = some ("def " ++ point.function ++ "_to_dict(" ++
    EntryPoint.writerArgument ++ ": " ++ point.hint.text ++ ") -> Any:")

theorem spellsClass_soundClassBlock {declared : TypeId → Bool} {known : List TypeId}
    (agrees : ∀ id, declared id = true ↔ id ∈ known) (id : TypeId) {c : ClassType}
    (sound : plan.bodyFault? c = none) :
    plan.SpellsClass known c (plan.soundClassBlock declared id c) where
  fields := by
    have fields : (plan.soundClassBlock declared id c).body.fieldList =
        plan.soundFields declared id c := plan.fieldList_soundBody declared id c
    rw [fields, soundFields, List.forall₂_map_right_iff, List.forall₂_same]
    exact fun entry listed =>
      ⟨rfl, Graph.spellsProperty_of_sound agrees (fault?_of_sound sound listed)⟩
  lines _ listed := ClassBlock.fieldLine_mem_lines listed
  parameters converters version := by
    obtain ⟨members, body⟩ : ∃ members,
        (plan.soundClassBlock declared id c).body = .members members := by
      unfold soundClassBlock soundBody
      rw [converters]
      exact ⟨_, rfl⟩
    refine ClassBlock.constructorLine_mem_lines body ?_
    rw [soundClassBlock, version]
    rfl

theorem spellsEntryPoint_soundEntryPoint {declared : TypeId → Bool} {known : List TypeId}
    (agrees : ∀ id, declared id = true ↔ id ∈ known) {name : String} {id : TypeId}
    (sound : plan.graph.fault? id (entryLocation name) = none) :
    plan.SpellsEntryPoint known (name, id) (plan.soundEntryPoint declared name id) where
  function := by rw [soundEntryPoint]
  hint := Graph.spells_of_sound agrees sound
  reader := EntryPoint.head?_readerLines _
  writer := EntryPoint.head?_writerLines _

theorem isDeclared_begun (plan : Plan) {draft : Draft} {id : TypeId}
    (unseen : draft.progress.state id = .unseen) :
    (plan.begun draft id).progress.isDeclared = draft.progress.isDeclared := by
  funext other
  unfold begun Progress.isDeclared
  rw [Progress.state_set]
  split
  · next same =>
    rw [same, unseen]
    rfl
  · rfl

theorem Step.blocks_of_class {draft next : Draft} {id : TypeId} {c : ClassType}
    (step : plan.Step draft (.declare id) (.ok ()) next)
    (found : plan.graph.get? id = some (.classType c)) :
    plan.bodyFault? c = none ∧ next.blocks =
      draft.blocks ++ [.classBlock (plan.soundClassBlock draft.progress.isDeclared id c)] := by
  cases step with
  | enum found' unseen => cases found.symm.trans found'
  | soundClass found' unseen sound =>
    cases found.symm.trans found'
    rw [← plan.isDeclared_begun unseen]
    exact ⟨sound, rfl⟩

theorem Step.prefix_blocks {draft next : Draft} {request : Request} {outcome : Except Fault Unit}
    (step : plan.Step draft request outcome next) : draft.blocks <+: next.blocks := by
  rcases step.adds_or_keeps with ⟨_, added, adds⟩ | ⟨_, keeps⟩
  · have blocks : next.blocks = draft.blocks ++ added.blocks := congrArg Parts.blocks adds.parts
    exact ⟨added.blocks, blocks.symm⟩
  · have blocks : next.blocks = draft.blocks := congrArg Parts.blocks keeps.parts
    exact ⟨[], (List.append_nil _).trans blocks.symm⟩

/-- What is written in a block stays as it is. -/
theorem prefix_blocks_after (plan : Plan) (requests : List Request) (draft : Draft) :
    draft.blocks <+: (plan.after requests draft).blocks := by
  induction requests generalizing draft with
  | nil => exact List.prefix_refl _
  | cons request rest ih =>
    rw [after_cons]
    exact (plan.step_perform draft request).prefix_blocks.trans (ih _)

theorem isDeclared_iff_of_allSucceed {requests : List Request}
    (succeed : AllSucceed (plan.history requests)) (id : TypeId) :
    (plan.draftOf requests).progress.isDeclared id = true ↔
      id ∈ requests.filterMap Request.declares? := by
  rw [← declarations_of_allSucceed succeed, ← (plan.ledger requests).declared id]
  exact beq_iff_eq

/-- In a run in which every request succeeds, the block of a class stands behind those of the types
declared before, and these are the types that it knows. -/
theorem exists_block_of_allSucceed {earlier later : List Request} {id : TypeId} {c : ClassType}
    (succeed : AllSucceed (plan.history (earlier ++ .declare id :: later)))
    (found : plan.graph.get? id = some (.classType c)) :
    ∃ block, (plan.draftOf (earlier ++ .declare id :: later)).blocks[(earlier.filterMap
        Request.declares?).length]? = some (.classBlock block) ∧
      plan.SpellsClass (earlier.filterMap Request.declares?) c block := by
  unfold history at succeed
  rw [attempts_append, allSucceed_append, attempts_cons, allSucceed_cons] at succeed
  obtain ⟨past, now, _⟩ := succeed
  have step := plan.step_perform (plan.draftOf earlier) (.declare id)
  have ok : ((plan.perform (.declare id)).on (plan.draftOf earlier)).1 = .ok () := now
  rw [ok] at step
  obtain ⟨sound, blocks⟩ := step.blocks_of_class found
  have count : (plan.draftOf earlier).blocks.length =
      (earlier.filterMap Request.declares?).length := by
    rw [← declarations_of_allSucceed past, ← (plan.ledger earlier).blocks, List.length_map]
  have stays : (plan.draftOf earlier).blocks ++ [.classBlock (plan.soundClassBlock
      (plan.draftOf earlier).progress.isDeclared id c)] <+:
        (plan.draftOf (earlier ++ .declare id :: later)).blocks := by
    rw [← blocks]
    unfold draftOf
    rw [after_append, after_cons]
    exact plan.prefix_blocks_after later _
  obtain ⟨others, whole⟩ := stays
  refine ⟨_, ?_, spellsClass_soundClassBlock (isDeclared_iff_of_allSucceed past) id sound⟩
  rw [← whole, ← count, List.append_assoc, List.getElem?_append_right le_rfl, Nat.sub_self]
  rfl

theorem exists_entryPoints_after {known : List TypeId} {entries : List (String × TypeId)}
    {draft : Draft} (agrees : ∀ id, draft.progress.isDeclared id = true ↔ id ∈ known)
    (succeed : AllSucceed
      (plan.attempts (entries.map fun (name, id) => .entryPoint name id) draft)) :
    ∃ points, (plan.after (entries.map fun (name, id) => .entryPoint name id) draft).entryPoints =
        draft.entryPoints ++ points ∧
      List.Forall₂ (plan.SpellsEntryPoint known)
        (if plan.options.justTypes then [] else entries) points := by
  induction entries generalizing draft with
  | nil =>
    refine ⟨[], (List.append_nil _).symm, ?_⟩
    rw [ite_self]
    exact .nil
  | cons entry rest ih =>
    obtain ⟨name, id⟩ := entry
    rw [List.map_cons, attempts_cons, allSucceed_cons] at succeed
    obtain ⟨now, later⟩ := succeed
    have step := plan.step_perform draft (.entryPoint name id)
    rw [List.map_cons, after_cons]
    dsimp only at now later ⊢
    generalize (plan.perform (.entryPoint name id)).on draft = result at now later step ⊢
    obtain ⟨outcome, next⟩ := result
    cases step with
    | passedOver types =>
      obtain ⟨points, written, spelled⟩ := ih agrees later
      refine ⟨points, written, ?_⟩
      rw [if_pos types] at spelled ⊢
      exact spelled
    | brokenEntryPoint types broken => cases now
    | soundEntryPoint types sound =>
      have same : (plan.withEntryPoint draft name id).progress = draft.progress := rfl
      obtain ⟨points, written, spelled⟩ := ih (same ▸ agrees) later
      refine ⟨_ :: points, written.trans (List.append_assoc _ [_] points), ?_⟩
      rw [types] at spelled ⊢
      exact .cons (spellsEntryPoint_soundEntryPoint agrees sound) spelled

theorem entryPoints_of_declarations (plan : Plan) (order : List TypeId) :
    (plan.draftOf (order.map .declare)).entryPoints = [] := by
  have none : (plan.history (order.map .declare)).countP Attempt.enters = 0 := by
    rw [List.countP_eq_zero]
    rintro ⟨request, outcome⟩ among
    have asked := List.mem_map_of_mem (f := Prod.fst) among
    rw [history, map_fst_attempts] at asked
    obtain ⟨id, _, rfl⟩ := List.mem_map.mp asked
    exact Bool.false_ne_true
  have count := (plan.ledger (order.map .declare)).entryPoints
  rw [none, ite_self] at count
  exact List.length_eq_zero_iff.mp count

/-- In a module that is generated, the hints of a class spell the types declared before it by their
bare names and all other classes and enums, itself among them, in quotes; the hints of the entry
points spell by their bare names just the types that the module declares. -/
theorem references_quoted_until_declared {plan : Plan} {order : List TypeId}
    {entryPoints : OrderedMap String TypeId} {text : String}
    (generated : plan.generate order entryPoints = .ok text) :
    text = (plan.draftOf (requests order entryPoints)).text plan.options ∧
      (plan.draftOf (requests order entryPoints)).blocks.map Block.id = order ∧
      (∀ earlier id later, order = earlier ++ id :: later →
        ∀ c, plan.graph.get? id = some (.classType c) →
        ∃ block, (plan.draftOf (requests order entryPoints)).blocks[earlier.length]? =
            some (.classBlock block) ∧
          plan.SpellsClass earlier c block) ∧
      List.Forall₂ (plan.SpellsEntryPoint order)
        (if plan.options.justTypes then [] else entryPoints.entries)
        (plan.draftOf (requests order entryPoints)).entryPoints := by
  obtain ⟨succeed, written⟩ := (plan.generate_eq_ok_iff order entryPoints text).mp generated
  refine ⟨written.symm, ?_, ?_, ?_⟩
  · rw [(plan.ledger _).blocks, declarations_of_allSucceed succeed, filterMap_declares?_requests]
  · rintro earlier id later rfl c found
    have cut : requests (earlier ++ id :: later) entryPoints =
        earlier.map .declare ++ .declare id :: requests later entryPoints := by
      simp only [requests, List.map_append, List.map_cons, List.append_assoc, List.cons_append]
    rw [cut] at succeed ⊢
    have block := exists_block_of_allSucceed succeed found
    rwa [filterMap_declares?_declarations] at block
  · unfold requests history at succeed
    rw [attempts_append, allSucceed_append] at succeed
    obtain ⟨past, entries⟩ := succeed
    have agrees := isDeclared_iff_of_allSucceed past
    rw [filterMap_declares?_declarations] at agrees
    obtain ⟨points, all, spelled⟩ := exists_entryPoints_after agrees entries
    rw [entryPoints_of_declarations, List.nil_append] at all
    unfold requests draftOf
    rw [after_append]
    exact all ▸ spelled

theorem twins_references :
    ∃ text, twins.generate [⟨2⟩, ⟨3⟩] (.ofList [("pair", ⟨0⟩)]) = .ok text ∧
      (∃ block, (twins.draftOf (requests [⟨2⟩, ⟨3⟩] (.ofList [("pair", ⟨0⟩)]))).blocks[0]? =
          some (.classBlock block) ∧
        twins.SpellsClass [] ⟨"Twin", .ofList [("other", ⟨"other", ⟨3⟩, false⟩),
          ("self", ⟨"self", ⟨1⟩, false⟩)]⟩ block ∧
        block.body.fieldList.map (·.hint.text) = ["'Twin'", "Optional['Twin']"]) ∧
      (∃ block, (twins.draftOf (requests [⟨2⟩, ⟨3⟩] (.ofList [("pair", ⟨0⟩)]))).blocks[1]? =
          some (.classBlock block) ∧
        twins.SpellsClass [⟨2⟩] ⟨"Twin", .ofList [("first", ⟨"first", ⟨2⟩, true⟩),
          ("rest", ⟨"rest", ⟨0⟩, false⟩)]⟩ block ∧
        block.body.fieldList.map (·.hint.text) = ["Optional[Twin]", "List['Twin']"]) ∧
      List.Forall₂ (twins.SpellsEntryPoint [⟨2⟩, ⟨3⟩]) [("pair", ⟨0⟩)]
        (twins.draftOf (requests [⟨2⟩, ⟨3⟩] (.ofList [("pair", ⟨0⟩)]))).entryPoints := by
  have succeed : AllSucceed (twins.history (requests [⟨2⟩, ⟨3⟩] (.ofList [("pair", ⟨0⟩)]))) :=
    allSucceed_cons.mpr ⟨rfl, allSucceed_cons.mpr ⟨rfl, allSucceed_cons.mpr
      ⟨rfl, allSucceed_nil⟩⟩⟩
  have generated := (twins.generate_eq_ok_iff _ _ _).mpr ⟨succeed, rfl⟩
  obtain ⟨-, -, classes, helpers⟩ := references_quoted_until_declared generated
  obtain ⟨first, firstPlace, firstSpells⟩ := classes [] ⟨2⟩ [⟨3⟩] rfl _ rfl
  obtain ⟨second, secondPlace, secondSpells⟩ := classes [⟨2⟩] ⟨3⟩ [] rfl _ rfl
  refine ⟨_, generated, ⟨first, firstPlace, firstSpells, ?_⟩,
    ⟨second, secondPlace, secondSpells, ?_⟩, helpers⟩
  · cases firstPlace
    rfl
  · cases secondPlace
    rfl

end Plan

end JsonBinding
