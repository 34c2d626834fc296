import JsonBinding.Draft.Request
import JsonBinding.Proofs.Inline.Outcome
/-!
What a request does to a draft. A class is sound if all its properties can be written; then its
fields and its converters of both directions are built without a fault, and otherwise all three stop
at the fault of the same property (`outcome_fields`, `outcome_converters`). `Plan.Step` lists all
that can become of a request together with the draft that it leaves, and `step_perform` says that
the list is complete. A request that fails leaves all as it was but for imports and, if the body of
a class cannot be written, the progress of that class (`failed_request_keeps`).
-/
namespace JsonBinding

namespace Plan

/-- The fault of the first property of a class that cannot be written. -/
def bodyFault? (plan : Plan) (c : ClassType) : Option Fault :=
  c.properties.entries.findSome? fun (name, property) =>
    plan.graph.fault? property.type (propertyLocation c name)

def soundFields (plan : Plan) (declared : TypeId → Bool) (id : TypeId) (c : ClassType) :
    List Field :=
  c.properties.entries.map fun (name, property) =>
    ⟨name, property.jsonKey, plan.graph.propertyHintTree declared property,
      plan.descriptions.ofProperty id name⟩

def soundConverters (plan : Plan) (d : Direction) (c : ClassType) : List Converter :=
  c.properties.entries.map fun (_, property) => plan.graph.propertyConverterTree d property

def soundBody (plan : Plan) (declared : TypeId → Bool) (id : TypeId) (c : ClassType) : ClassBody :=
  let fields := plan.soundFields declared id c
  if plan.options.justTypes then .fields fields
  else .members (joinMembers fields (plan.soundConverters .fromJson c)
    (plan.soundConverters .toJson c))

theorem outcome_fields (plan : Plan) (declared : TypeId → Bool) (id : TypeId) (c : ClassType) :
    (plan.fields declared id c).outcome =
      faultOr (plan.bodyFault? c) (plan.soundFields declared id c) := by
  refine Recorded.outcome_mapM ?_
  rintro ⟨name, property⟩ -
  have hint := plan.graph.outcome_propertyHint declared property (propertyLocation c name)
  exact Recorded.outcome_bind_pure hint _

theorem outcome_converters (plan : Plan) (d : Direction) (c : ClassType) :
    (plan.converters d c).outcome = faultOr (plan.bodyFault? c) (plan.soundConverters d c) := by
  refine Recorded.outcome_mapM ?_
  rintro ⟨name, property⟩ -
  exact plan.graph.outcome_propertyConverter d property (propertyLocation c name)

def begun (plan : Plan) (draft : Draft) (id : TypeId) : Draft :=
  { draft with
    progress := draft.progress.set id .inDeclaration
    imports := draft.imports.insertAll
      (if plan.options.version.usesDataclasses then [.dataclass] else []) }

/-- The draft with the imports of the fields of a class, or of those before a fault. -/
def withFieldImports (plan : Plan) (draft : Draft) (id : TypeId) (c : ClassType) : Draft :=
  { draft with
    imports := draft.imports.insertAll (plan.fields draft.progress.isDeclared id c).record }

def withBodyNeeds (plan : Plan) (draft : Draft) (id : TypeId) (c : ClassType) : Draft :=
  let draft := plan.withFieldImports draft id c
  if plan.options.justTypes then draft
  else
    { draft with
      imports := draft.imports.insert .any
      combinators := (draft.combinators.insertAll (plan.converters .fromJson c).record).insertAll
        (plan.converters .toJson c).record }

theorem on_classBody_of_fault {plan : Plan} {c : ClassType} {fault : Fault}
    (broken : plan.bodyFault? c = some fault) (draft : Draft) (id : TypeId) :
    (plan.classBody id c).on draft = (.error fault, plan.withFieldImports draft id c) := by
  have fields := plan.outcome_fields draft.progress.isDeclared id c
  rw [broken] at fields
  simp only [classBody, Writing.on_bind, Writing.on_declared, Writing.on_importing, fields, faultOr,
    withFieldImports]

theorem on_classBody_of_sound {plan : Plan} {c : ClassType} (sound : plan.bodyFault? c = none)
    (draft : Draft) (id : TypeId) :
    (plan.classBody id c).on draft =
      (.ok (plan.soundBody draft.progress.isDeclared id c), plan.withBodyNeeds draft id c) := by
  have fields := plan.outcome_fields draft.progress.isDeclared id c
  have decoders := plan.outcome_converters .fromJson c
  have encoders := plan.outcome_converters .toJson c
  rw [sound] at fields decoders encoders
  cases types : plan.options.justTypes with
  | true =>
    simp only [classBody, Writing.on_bind, Writing.on_declared, Writing.on_importing, fields,
      faultOr, types, if_true, Writing.on_pure, soundBody, withBodyNeeds, withFieldImports]
  | false =>
    simp only [classBody, Writing.on_bind, Writing.on_declared, Writing.on_importing,
      Writing.on_combining, fields, decoders, encoders, faultOr, types, Bool.false_eq_true,
      if_false, Writing.on_pure, soundBody, withBodyNeeds, withFieldImports]
    rfl

def soundClassBlock (plan : Plan) (declared : TypeId → Bool) (id : TypeId) (c : ClassType) :
    ClassBlock where
  id := id
  name := c.name
  description := plan.descriptions.ofType id
  isDataclass := plan.options.version.usesDataclasses
  body := plan.soundBody declared id c

def enumBlock (plan : Plan) (id : TypeId) (e : EnumType) : EnumBlock where
  id := id
  name := e.name
  description := plan.descriptions.ofType id
  cases := e.cases.entries

def withBrokenClass (plan : Plan) (draft : Draft) (id : TypeId) (c : ClassType) : Draft :=
  plan.withFieldImports (plan.begun draft id) id c

def withClass (plan : Plan) (draft : Draft) (id : TypeId) (c : ClassType) : Draft :=
  let begun := plan.begun draft id
  let needs := plan.withBodyNeeds begun id c
  { needs with
    progress := begun.progress.finish id
    blocks := draft.blocks ++
      [.classBlock (plan.soundClassBlock begun.progress.isDeclared id c)] }

def withEnum (plan : Plan) (draft : Draft) (id : TypeId) (e : EnumType) : Draft :=
  { draft with
    progress := (draft.progress.set id .inDeclaration).finish id
    imports := draft.imports.insert .enum
    blocks := draft.blocks ++ [.enumBlock (plan.enumBlock id e)] }

def entryLocation (name : String) : Location :=
  ⟨.entryPoint name, []⟩

def withHintImports (plan : Plan) (draft : Draft) (name : String) (id : TypeId) : Draft :=
  { draft with
    imports := draft.imports.insertAll
      (plan.graph.hint draft.progress.isDeclared id (entryLocation name)).record }

/-- The entry point of a type that can be written. -/
def soundEntryPoint (plan : Plan) (declared : TypeId → Bool) (name : String) (id : TypeId) :
    EntryPoint where
  function := makeName name .property
  hint := (plan.graph.inline id).hintTree declared
  decoder := (plan.graph.inline id).converterTree .fromJson
  encoder := (plan.graph.inline id).converterTree .toJson

def withEntryPoint (plan : Plan) (draft : Draft) (name : String) (id : TypeId) : Draft :=
  let needs := plan.withHintImports draft name id
  { needs with
    imports := needs.imports.insert .any
    combinators :=
      (draft.combinators.insertAll
        (plan.graph.converter .fromJson id (entryLocation name)).record).insertAll
        (plan.graph.converter .toJson id (entryLocation name)).record
    entryPoints := draft.entryPoints ++
      [plan.soundEntryPoint draft.progress.isDeclared name id] }

theorem on_declareClass_of_started {plan : Plan} {draft : Draft} {id : TypeId}
    (started : draft.progress.state id ≠ .unseen) (c : ClassType) :
    (plan.declareClass id c).on draft = (.error (.alreadyDeclared c.name), draft) := by
  simp only [declareClass, Writing.on_bind, Writing.on_start, started, if_false]

theorem on_declareClass_of_unseen {plan : Plan} {draft : Draft} {id : TypeId}
    (unseen : draft.progress.state id = .unseen) (c : ClassType) :
    (plan.declareClass id c).on draft =
      (plan.classBody id c >>= fun body => Writing.complete <| .classBlock {
        id, name := c.name, description := plan.descriptions.ofType id,
        isDataclass := plan.options.version.usesDataclasses, body }).on (plan.begun draft id) := by
  unfold declareClass begun
  rw [Writing.on_bind, Writing.on_start, if_pos unseen]
  cases plan.options.version.usesDataclasses with
  | true =>
    simp only [if_true, Writing.on_bind, Writing.on_importing]
    rfl
  | false =>
    simp only [Bool.false_eq_true, if_false]
    rfl

theorem on_declareClass_of_fault {plan : Plan} {draft : Draft} {id : TypeId} {c : ClassType}
    {fault : Fault} (unseen : draft.progress.state id = .unseen)
    (broken : plan.bodyFault? c = some fault) :
    (plan.declareClass id c).on draft = (.error fault, plan.withBrokenClass draft id c) := by
  rw [on_declareClass_of_unseen unseen, Writing.on_bind, on_classBody_of_fault broken]
  rfl

theorem withBodyNeeds_progress (plan : Plan) (draft : Draft) (id : TypeId) (c : ClassType) :
    (plan.withBodyNeeds draft id c).progress = draft.progress := by
  unfold withBodyNeeds
  split <;> rfl

theorem withBodyNeeds_blocks (plan : Plan) (draft : Draft) (id : TypeId) (c : ClassType) :
    (plan.withBodyNeeds draft id c).blocks = draft.blocks := by
  unfold withBodyNeeds
  split <;> rfl

theorem withBodyNeeds_entryPoints (plan : Plan) (draft : Draft) (id : TypeId) (c : ClassType) :
    (plan.withBodyNeeds draft id c).entryPoints = draft.entryPoints := by
  unfold withBodyNeeds
  split <;> rfl

theorem on_declareClass_of_sound {plan : Plan} {draft : Draft} {id : TypeId} {c : ClassType}
    (unseen : draft.progress.state id = .unseen) (sound : plan.bodyFault? c = none) :
    (plan.declareClass id c).on draft = (.ok (), plan.withClass draft id c) := by
  rw [on_declareClass_of_unseen unseen, Writing.on_bind, on_classBody_of_sound sound]
  simp only [Writing.on_complete, withBodyNeeds_progress, withBodyNeeds_blocks]
  rfl

theorem on_declareEnum_of_started {plan : Plan} {draft : Draft} {id : TypeId}
    (started : draft.progress.state id ≠ .unseen) (e : EnumType) :
    (plan.declareEnum id e).on draft = (.error (.alreadyDeclared e.name), draft) := by
  simp only [declareEnum, Writing.on_bind, Writing.on_start, started, if_false]

theorem on_declareEnum_of_unseen {plan : Plan} {draft : Draft} {id : TypeId}
    (unseen : draft.progress.state id = .unseen) (e : EnumType) :
    (plan.declareEnum id e).on draft = (.ok (), plan.withEnum draft id e) := by
  simp only [declareEnum, Writing.on_bind, Writing.on_start, unseen, if_true,
    Writing.on_importing]
  rfl

theorem on_declare_of_started {plan : Plan} {draft : Draft} {id : TypeId} {node : Node}
    {name : String} (found : plan.graph.get? id = some node)
    (named : node.declaredName? = some name)
    (started : draft.progress.state id ≠ .unseen) :
    (plan.declare id).on draft = (.error (.alreadyDeclared name), draft) := by
  unfold declare
  rw [found]
  cases node with
  | classType c =>
    cases named
    exact on_declareClass_of_started started c
  | enumType e =>
    cases named
    exact on_declareEnum_of_started started e
  | primitive p => cases named
  | array items => cases named
  | map values => cases named
  | union members => cases named
  | formatted f => cases named

theorem on_addEntryPoint_of_justTypes {plan : Plan} (types : plan.options.justTypes = true)
    (draft : Draft) (name : String) (id : TypeId) :
    (plan.addEntryPoint name id).on draft = (.ok (), draft) := by
  simp only [addEntryPoint, types, if_true, Writing.on_pure]

theorem on_addEntryPoint_of_fault {plan : Plan} {name : String} {id : TypeId} {fault : Fault}
    (types : plan.options.justTypes = false)
    (broken : plan.graph.fault? id (entryLocation name) = some fault) (draft : Draft) :
    (plan.addEntryPoint name id).on draft = (.error fault, plan.withHintImports draft name id) := by
  have hint := plan.graph.outcome_hint draft.progress.isDeclared id (entryLocation name)
  rw [broken, entryLocation] at hint
  simp only [addEntryPoint, types, Bool.false_eq_true, if_false, Writing.on_bind,
    Writing.on_declared, Writing.on_importing, hint, faultOr, withHintImports, entryLocation]

theorem on_addEntryPoint_of_sound {plan : Plan} {name : String} {id : TypeId}
    (types : plan.options.justTypes = false)
    (sound : plan.graph.fault? id (entryLocation name) = none) (draft : Draft) :
    (plan.addEntryPoint name id).on draft = (.ok (), plan.withEntryPoint draft name id) := by
  have hint := plan.graph.outcome_hint draft.progress.isDeclared id (entryLocation name)
  have decoder := plan.graph.outcome_converter .fromJson id (entryLocation name)
  have encoder := plan.graph.outcome_converter .toJson id (entryLocation name)
  rw [sound, entryLocation] at hint decoder encoder
  simp only [addEntryPoint, types, Bool.false_eq_true, if_false, Writing.on_bind,
    Writing.on_declared, Writing.on_importing, Writing.on_combining, Writing.on_enter, hint,
    decoder, encoder, faultOr, withEntryPoint, withHintImports, entryLocation]
  rfl

/-- What may become of a request: its outcome, and the draft that it leaves. -/
inductive Step (plan : Plan) (draft : Draft) : Request → Except Fault Unit → Draft → Prop
  | unknown {id : TypeId} : plan.graph.get? id = none →
      Step plan draft (.declare id) (.error (.unknownType id ⟨.declaration id, []⟩)) draft
  | undeclarable {id : TypeId} {node : Node} : plan.graph.get? id = some node →
      node.declaredName? = none →
      Step plan draft (.declare id) (.error (.undeclarable node.kind ⟨.declaration id, []⟩)) draft
  /-- The type is in declaration or declared. -/
  | again {id : TypeId} {node : Node} {name : String} : plan.graph.get? id = some node →
      node.declaredName? = some name → draft.progress.state id ≠ .unseen →
      Step plan draft (.declare id) (.error (.alreadyDeclared name)) draft
  | brokenClass {id : TypeId} {c : ClassType} {fault : Fault} :
      plan.graph.get? id = some (.classType c) → draft.progress.state id = .unseen →
      plan.bodyFault? c = some fault →
      Step plan draft (.declare id) (.error fault) (plan.withBrokenClass draft id c)
  | soundClass {id : TypeId} {c : ClassType} : plan.graph.get? id = some (.classType c) →
      draft.progress.state id = .unseen → plan.bodyFault? c = none →
      Step plan draft (.declare id) (.ok ()) (plan.withClass draft id c)
  | enum {id : TypeId} {e : EnumType} : plan.graph.get? id = some (.enumType e) →
      draft.progress.state id = .unseen →
      Step plan draft (.declare id) (.ok ()) (plan.withEnum draft id e)
  /-- A module of types alone takes an entry point without adding it. -/
  | passedOver {name : String} {id : TypeId} : plan.options.justTypes = true →
      Step plan draft (.entryPoint name id) (.ok ()) draft
  | brokenEntryPoint {name : String} {id : TypeId} {fault : Fault} :
      plan.options.justTypes = false → plan.graph.fault? id (entryLocation name) = some fault →
      Step plan draft (.entryPoint name id) (.error fault) (plan.withHintImports draft name id)
  | soundEntryPoint {name : String} {id : TypeId} : plan.options.justTypes = false →
      plan.graph.fault? id (entryLocation name) = none →
      Step plan draft (.entryPoint name id) (.ok ()) (plan.withEntryPoint draft name id)

theorem step_declare (plan : Plan) (draft : Draft) (id : TypeId) :
    plan.Step draft (.declare id) ((plan.declare id).on draft).1
      ((plan.declare id).on draft).2 := by
  unfold declare
  cases found : plan.graph.get? id with
  | none => exact .unknown found
  | some node =>
    cases node with
    | classType c =>
      by_cases unseen : draft.progress.state id = .unseen
      · cases body : plan.bodyFault? c with
        | none =>
          simp only [on_declareClass_of_sound unseen body]
          exact .soundClass found unseen body
        | some fault =>
          simp only [on_declareClass_of_fault unseen body]
          exact .brokenClass found unseen body
      · simp only [on_declareClass_of_started unseen]
        exact .again found rfl unseen
    | enumType e =>
      by_cases unseen : draft.progress.state id = .unseen
      · simp only [on_declareEnum_of_unseen unseen]
        exact .enum found unseen
      · simp only [on_declareEnum_of_started unseen]
        exact .again found rfl unseen
    | primitive p => exact .undeclarable found rfl
    | array items => exact .undeclarable found rfl
    | map values => exact .undeclarable found rfl
    | union members => exact .undeclarable found rfl
    | formatted f => exact .undeclarable found rfl

theorem step_addEntryPoint (plan : Plan) (draft : Draft) (name : String) (id : TypeId) :
    plan.Step draft (.entryPoint name id) ((plan.addEntryPoint name id).on draft).1
      ((plan.addEntryPoint name id).on draft).2 := by
  cases types : plan.options.justTypes with
  | true =>
    simp only [on_addEntryPoint_of_justTypes types]
    exact .passedOver types
  | false =>
    cases written : plan.graph.fault? id (entryLocation name) with
    | none =>
      simp only [on_addEntryPoint_of_sound types written]
      exact .soundEntryPoint types written
    | some fault =>
      simp only [on_addEntryPoint_of_fault types written]
      exact .brokenEntryPoint types written

/-- Nothing else becomes of a request. -/
theorem step_perform (plan : Plan) (draft : Draft) (request : Request) :
    plan.Step draft request ((plan.perform request).on draft).1
      ((plan.perform request).on draft).2 := by
  cases request with
  | declare id => exact plan.step_declare draft id
  | entryPoint name id => exact plan.step_addEntryPoint draft name id

/-- What is listed for a request does become of it, so nothing is listed twice. -/
theorem Step.on_perform {plan : Plan} {draft next : Draft} {request : Request}
    {outcome : Except Fault Unit} (step : plan.Step draft request outcome next) :
    (plan.perform request).on draft = (outcome, next) := by
  cases step with
  | unknown found => simp only [perform, declare, found, Writing.on_throw]
  | @undeclarable id node found unnamed =>
    simp only [perform, declare, found]
    cases node with
    | classType c => cases unnamed
    | enumType e => cases unnamed
    | _ => rfl
  | again found named started => exact on_declare_of_started found named started
  | brokenClass found unseen broken =>
    simp only [perform, declare, found]
    exact on_declareClass_of_fault unseen broken
  | soundClass found unseen sound =>
    simp only [perform, declare, found]
    exact on_declareClass_of_sound unseen sound
  | enum found unseen =>
    simp only [perform, declare, found]
    exact on_declareEnum_of_unseen unseen _
  | passedOver types => exact on_addEntryPoint_of_justTypes types draft _ _
  | brokenEntryPoint types broken => exact on_addEntryPoint_of_fault types broken draft
  | soundEntryPoint types sound => exact on_addEntryPoint_of_sound types sound draft

end Plan

end JsonBinding
