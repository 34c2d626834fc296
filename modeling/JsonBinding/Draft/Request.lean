import JsonBinding.Draft.Basic
import JsonBinding.Draft.Plan
import JsonBinding.Name.Style
/-!
Requests to a module in the making: to declare a class or an enum, and to add an entry point. A
request collects the imports and support functions that it needs. One that fails keeps what it had
collected up to the fault: a class whose body fails stays in declaration, and nothing of it is
written.
-/
namespace JsonBinding

namespace Plan

def propertyLocation (c : ClassType) (name : String) : Location :=
  Location.property ⟨.declared c.name, []⟩ name

/-- The fields of a class that still is in declaration. -/
def fields (plan : Plan) (declared : TypeId → Bool) (id : TypeId) (c : ClassType) :
    Recorded Import (List Field) :=
  c.properties.entries.mapM fun (name, property) => do
    let hint ← plan.graph.propertyHint declared property (propertyLocation c name)
    return ⟨name, property.jsonKey, hint, plan.descriptions.ofProperty id name⟩

def converters (plan : Plan) (d : Direction) (c : ClassType) :
    Recorded Combinator (List Converter) :=
  c.properties.entries.mapM fun (name, property) =>
    plan.graph.propertyConverter d property (propertyLocation c name)

def joinMembers (fields : List Field) (decoders encoders : List Converter) : List Member :=
  (fields.zip (decoders.zip encoders)).map fun (field, decoder, encoder) =>
    ⟨field, decoder, encoder⟩

def classBody (plan : Plan) (id : TypeId) (c : ClassType) : Writing ClassBody := do
  let declared ← Writing.declared
  let fields ← Writing.importing (plan.fields declared id c)
  if plan.options.justTypes then
    return .fields fields
  else
    Writing.importing (Recorded.note .any)
    let decoders ← Writing.combining (plan.converters .fromJson c)
    let encoders ← Writing.combining (plan.converters .toJson c)
    return .members (joinMembers fields decoders encoders)

def declareClass (plan : Plan) (id : TypeId) (c : ClassType) : Writing Unit := do
  Writing.start id c.name
  let isDataclass := plan.options.version.usesDataclasses
  if isDataclass then
    Writing.importing (Recorded.note .dataclass)
  let body ← plan.classBody id c
  Writing.complete <| .classBlock {
    id, name := c.name, description := plan.descriptions.ofType id, isDataclass, body }

def declareEnum (plan : Plan) (id : TypeId) (e : EnumType) : Writing Unit := do
  Writing.start id e.name
  Writing.importing (Recorded.note .enum)
  Writing.complete <| .enumBlock {
    id, name := e.name, description := plan.descriptions.ofType id, cases := e.cases.entries }

def declare (plan : Plan) (id : TypeId) : Writing Unit :=
  match plan.graph.get? id with
  | none => throw (.unknownType id ⟨.declaration id, []⟩)
  | some (.classType c) => plan.declareClass id c
  | some (.enumType e) => plan.declareEnum id e
  | some node => throw (.undeclarable node.kind ⟨.declaration id, []⟩)

/-- Adds an entry point; a module of types alone has none. -/
def addEntryPoint (plan : Plan) (name : String) (id : TypeId) : Writing Unit := do
  if plan.options.justTypes then
    return
  else
    let location : Location := ⟨.entryPoint name, []⟩
    let declared ← Writing.declared
    let hint ← Writing.importing (plan.graph.hint declared id location)
    let decoder ← Writing.combining (plan.graph.converter .fromJson id location)
    let encoder ← Writing.combining (plan.graph.converter .toJson id location)
    Writing.importing (Recorded.note .any)
    Writing.enter ⟨makeName name .property, hint, decoder, encoder⟩

end Plan

inductive Request
  | declare (id : TypeId)
  | entryPoint (name : String) (id : TypeId)
  deriving DecidableEq, Repr

namespace Plan

def perform (plan : Plan) : Request → Writing Unit
  | .declare id => plan.declare id
  | .entryPoint name id => plan.addEntryPoint name id

/-- Performs requests one after another, whether or not the ones before failed, and tells the
outcome of each. -/
def performAll (plan : Plan) : List Request → Draft → List (Except Fault Unit) × Draft
  | [], draft => ([], draft)
  | request :: rest, draft =>
    let (outcome, draft) := (plan.perform request).on draft
    let (outcomes, draft) := plan.performAll rest draft
    (outcome :: outcomes, draft)

/-- Performs requests up to the first that fails. -/
def performUntilFault (plan : Plan) : List Request → Writing Unit
  | [] => return
  | request :: rest => do
    plan.perform request
    plan.performUntilFault rest

end Plan

end JsonBinding
