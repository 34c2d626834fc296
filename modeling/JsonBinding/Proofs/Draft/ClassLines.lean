import JsonBinding.Proofs.Draft.Growth
/-!
The lines of a sound class, part by part: the decorator if there is one, the header, the docstring,
the fields with what is said about them, and the methods (`lines_soundClassBlock`). The methods do
not depend on what is said about the fields (`soundMethods_of_descriptions`).
-/
namespace JsonBinding

open Source Text

namespace ClassBlock

def decoratorLines (isDataclass : Bool) : List String :=
  if isDataclass then ["@dataclass"] else []

def header (name : String) : String :=
  "class " ++ name ++ ":"

def bodyLines : List Field → List String
  | [] => [indent "pass"]
  | fields => (fields.flatMap Field.lines).map indent

def accessors (name : String) (members : List Member) : List (List String) :=
  [readerLines name members, writerLines members]

def methodLines (methods : List (List String)) : List String :=
  methods.flatMap fun method => "" :: method.map indent

@[simp] theorem methodLines_nil : methodLines [] = [] := rfl

theorem lines_eq (block : ClassBlock) :
    block.lines = decoratorLines block.isDataclass ++
      header block.name :: docstringLines block.description ++ bodyLines block.body.fieldList ++
      methodLines block.methods := by
  unfold lines headLines
  cases block.body.fieldList <;> simp only [List.append_assoc, List.cons_append] <;> rfl

end ClassBlock

namespace Plan

open ClassBlock

def soundMembers (plan : Plan) (declared : TypeId → Bool) (id : TypeId) (c : ClassType) :
    List Member :=
  joinMembers (plan.soundFields declared id c) (plan.soundConverters .fromJson c)
    (plan.soundConverters .toJson c)

theorem soundMembers_eq (plan : Plan) (declared : TypeId → Bool) (id : TypeId) (c : ClassType) :
    plan.soundMembers declared id c =
      c.properties.entries.map fun (name, property) =>
        ⟨⟨name, property.jsonKey, plan.graph.propertyHintTree declared property,
            plan.descriptions.ofProperty id name⟩,
          plan.graph.propertyConverterTree .fromJson property,
          plan.graph.propertyConverterTree .toJson property⟩ :=
  joinMembers_map c.properties.entries _ _ _

theorem map_field_soundMembers (plan : Plan) (declared : TypeId → Bool) (id : TypeId)
    (c : ClassType) :
    (plan.soundMembers declared id c).map (·.field) = plan.soundFields declared id c := by
  rw [soundMembers_eq, List.map_map]
  rfl

/-- The methods of a sound class, of which there are none in a module of types alone. -/
def soundMethods (plan : Plan) (declared : TypeId → Bool) (id : TypeId) (c : ClassType) :
    List (List String) :=
  if plan.options.justTypes then []
  else
    (if plan.options.version.usesDataclasses then []
      else [constructorLines (plan.soundFields declared id c)]) ++
      accessors c.name (plan.soundMembers declared id c)

theorem methods_soundClassBlock (plan : Plan) (declared : TypeId → Bool) (id : TypeId)
    (c : ClassType) :
    (plan.soundClassBlock declared id c).methods = plan.soundMethods declared id c := by
  have body : plan.soundBody declared id c = if plan.options.justTypes
      then .fields (plan.soundFields declared id c)
      else .members (plan.soundMembers declared id c) := rfl
  simp only [soundMethods, methods, soundClassBlock, body]
  cases plan.options.justTypes with
  | true => rfl
  | false =>
    simp only [Bool.false_eq_true, if_false, map_field_soundMembers]
    rfl

theorem soundMethods_of_descriptions (g : Graph) (o : Options) (d d' : Descriptions)
    (declared : TypeId → Bool) (id : TypeId) (c : ClassType) :
    (Plan.mk g d' o).soundMethods declared id c = (Plan.mk g d o).soundMethods declared id c := by
  simp only [soundMethods, accessors, constructorLines, readerLines, writerLines, soundFields,
    soundMembers_eq, List.isEmpty_map, List.map_map]
  rfl

/-- The lines of a sound class without its decorator and its methods. -/
def soundHead (plan : Plan) (declared : TypeId → Bool) (id : TypeId) (c : ClassType) :
    List String :=
  header c.name :: docstringLines (plan.descriptions.ofType id) ++
    bodyLines (plan.soundFields declared id c)

theorem lines_soundClassBlock (plan : Plan) (declared : TypeId → Bool) (id : TypeId)
    (c : ClassType) :
    (plan.soundClassBlock declared id c).lines =
      decoratorLines plan.options.version.usesDataclasses ++ plan.soundHead declared id c ++
        methodLines (plan.soundMethods declared id c) := by
  rw [ClassBlock.lines_eq, methods_soundClassBlock, soundClassBlock, fieldList_soundBody,
    soundHead, List.append_assoc (decoratorLines _)]

end Plan

end JsonBinding
