import JsonBinding.Draft.Module
import JsonBinding.Proofs.Draft.Run
import JsonBinding.Proofs.Inline.Record
/-!
What a step adds to a draft. The parts of a module are its blocks and entry points; each refers to
imports and calls support functions. A step appends parts, registers the support functions that
they call and the imports that they refer to; if it fails it adds no part, and imports at most
(`Step.adds_or_keeps`).
-/
namespace JsonBinding

namespace Block

def converters : Block → List Converter
  | .classBlock block =>
    match block.body with
    | .fields _ => []
    | .members members => members.flatMap fun member => [member.decoder, member.encoder]
  | .enumBlock _ => []

def imports (options : Options) : Block → List Import
  | .classBlock block =>
    (if options.version = .v37 then [.dataclass] else []) ++
      block.body.fieldList.flatMap (·.hint.imports) ++
      (if options.justTypes then [] else [.any])
  | .enumBlock _ => [.enum]

end Block

namespace EntryPoint

def converters (entry : EntryPoint) : List Converter :=
  [entry.decoder, entry.encoder]

def imports (entry : EntryPoint) : List Import :=
  entry.hint.imports ++ [.any]

end EntryPoint

/-- What is written into a module on request. -/
structure Parts where
  blocks : List Block
  entryPoints : List EntryPoint

namespace Parts

def converters (parts : Parts) : List Converter :=
  parts.blocks.flatMap Block.converters ++ parts.entryPoints.flatMap EntryPoint.converters

def calls (parts : Parts) : List Combinator :=
  parts.converters.flatMap Converter.calls

/-- The imports that the parts refer to; those of support functions are not among them. -/
def imports (options : Options) (parts : Parts) : List Import :=
  parts.blocks.flatMap (Block.imports options) ++ parts.entryPoints.flatMap EntryPoint.imports

def empty : Parts :=
  ⟨[], []⟩

/-- Parts with further ones behind them. -/
def append (parts more : Parts) : Parts :=
  ⟨parts.blocks ++ more.blocks, parts.entryPoints ++ more.entryPoints⟩

@[simp] theorem append_empty (parts : Parts) : parts.append empty = parts := by
  simp [append, empty]

theorem mem_converters_append {parts more : Parts} {c : Converter} :
    c ∈ (parts.append more).converters ↔ c ∈ parts.converters ∨ c ∈ more.converters := by
  simp only [converters, append, List.flatMap_append, List.mem_append]
  grind

theorem mem_calls_append {parts more : Parts} {c : Combinator} :
    c ∈ (parts.append more).calls ↔ c ∈ parts.calls ∨ c ∈ more.calls := by
  simp only [calls, List.mem_flatMap, mem_converters_append, or_and_right, exists_or]

theorem mem_imports_append {options : Options} {parts more : Parts} {i : Import} :
    i ∈ (parts.append more).imports options ↔
      i ∈ parts.imports options ∨ i ∈ more.imports options := by
  simp only [imports, append, List.flatMap_append, List.mem_append]
  grind

end Parts

def Draft.parts (draft : Draft) : Parts :=
  ⟨draft.blocks, draft.entryPoints⟩

namespace Plan

variable {plan : Plan}

/-- A draft with further parts. What they call and refer to is registered, and nothing else. -/
structure Adds (plan : Plan) (draft next : Draft) (added : Parts) : Prop where
  parts : next.parts = draft.parts.append added
  combinators : ∀ c, next.combinators.contains c = true ↔
    draft.combinators.contains c = true ∨ c ∈ added.calls
  imports : ∀ i, i ∈ next.imports.added ↔
    i ∈ draft.imports.added ∨ i ∈ added.imports plan.options

/-- A draft with the same parts and support functions, and perhaps with further imports. -/
structure Keeps (draft next : Draft) : Prop where
  parts : next.parts = draft.parts
  combinators : next.combinators = draft.combinators
  imports : ∀ i ∈ draft.imports.added, i ∈ next.imports.added

theorem Keeps.refl (draft : Draft) : Keeps draft draft :=
  ⟨rfl, rfl, fun _ => id⟩

theorem fault?_of_sound {c : ClassType} (sound : plan.bodyFault? c = none)
    {entry : String × Property} (listed : entry ∈ c.properties.entries) :
    plan.graph.fault? entry.2.type (propertyLocation c entry.1) = none :=
  List.findSome?_eq_none_iff.mp sound entry listed

theorem fields_of_sound {c : ClassType} (sound : plan.bodyFault? c = none)
    (declared : TypeId → Bool) (id : TypeId) :
    plan.fields declared id c =
      ⟨(plan.soundFields declared id c).flatMap (·.hint.imports),
        .ok (plan.soundFields declared id c)⟩ := by
  unfold fields soundFields
  rw [List.flatMap_map]
  refine Recorded.mapM_mk ?_
  rintro ⟨name, property⟩ listed
  have hint := Graph.propertyHint_of_sound declared (fault?_of_sound sound listed)
  simp only [hint, Recorded.bind_pure_mk]

theorem converters_of_sound {c : ClassType} (sound : plan.bodyFault? c = none) (d : Direction) :
    plan.converters d c =
      ⟨(plan.soundConverters d c).flatMap Converter.calls, .ok (plan.soundConverters d c)⟩ := by
  unfold converters soundConverters
  rw [List.flatMap_map]
  refine Recorded.mapM_mk ?_
  rintro ⟨name, property⟩ listed
  exact Graph.propertyConverter_of_sound d (fault?_of_sound sound listed)

theorem joinMembers_map {α : Type} (entries : List α) (field : α → Field)
    (decoder encoder : α → Converter) :
    joinMembers (entries.map field) (entries.map decoder) (entries.map encoder) =
      entries.map fun entry => ⟨field entry, decoder entry, encoder entry⟩ := by
  unfold joinMembers
  induction entries with
  | nil => rfl
  | cons entry rest ih => simp only [List.map_cons, List.zip_cons_cons, ih]

theorem fieldList_soundBody (plan : Plan) (declared : TypeId → Bool) (id : TypeId)
    (c : ClassType) :
    (plan.soundBody declared id c).fieldList = plan.soundFields declared id c := by
  unfold soundBody
  cases plan.options.justTypes with
  | true => rfl
  | false =>
    simp only [Bool.false_eq_true, if_false, soundFields, soundConverters, joinMembers_map,
      ClassBody.fieldList, List.map_map]
    rfl

/-- A class calls what its converters of either direction call, unless they are left out. -/
theorem mem_calls_soundClassBlock {declared : TypeId → Bool} {id : TypeId} {c : ClassType}
    {f : Combinator} :
    f ∈ (Parts.mk [.classBlock (plan.soundClassBlock declared id c)] []).calls ↔
      plan.options.justTypes = false ∧
        (f ∈ (plan.soundConverters .fromJson c).flatMap Converter.calls ∨
          f ∈ (plan.soundConverters .toJson c).flatMap Converter.calls) := by
  unfold Parts.calls Parts.converters
  simp only [List.flatMap_cons, List.flatMap_nil, List.append_nil, Block.converters,
    soundClassBlock, soundBody]
  cases plan.options.justTypes with
  | true => simp
  | false =>
    simp only [Bool.false_eq_true, if_false, soundFields, soundConverters, joinMembers_map,
      List.flatMap_map, List.mem_flatMap, List.mem_cons, List.not_mem_nil, or_false, true_and]
    grind

theorem mem_imports_withClass {draft : Draft} {id : TypeId} {c : ClassType}
    (sound : plan.bodyFault? c = none) (i : Import) :
    i ∈ (plan.withClass draft id c).imports.added ↔
      i ∈ draft.imports.added ∨ i ∈ Block.imports plan.options
        (.classBlock (plan.soundClassBlock (plan.begun draft id).progress.isDeclared id c)) := by
  unfold withClass withBodyNeeds withFieldImports Block.imports soundClassBlock
  dsimp only
  rw [fields_of_sound sound, fieldList_soundBody]
  have dataclass : i ∈ (plan.begun draft id).imports.added ↔
      i ∈ draft.imports.added ∨
        i ∈ (if plan.options.version = .v37 then [Import.dataclass] else []) := by
    simp [begun, PythonVersion.usesDataclasses, Imports.mem_added_insertAll]
  cases plan.options.justTypes <;>
    simp [Imports.mem_added_insertAll, dataclass, or_assoc]

theorem contains_withClass {draft : Draft} {id : TypeId} {c : ClassType}
    (sound : plan.bodyFault? c = none) (f : Combinator) :
    (plan.withClass draft id c).combinators.contains f = true ↔
      draft.combinators.contains f = true ∨
        f ∈ (Parts.mk [.classBlock (plan.soundClassBlock
          (plan.begun draft id).progress.isDeclared id c)] []).calls := by
  rw [mem_calls_soundClassBlock]
  unfold withClass withBodyNeeds withFieldImports begun
  rw [converters_of_sound sound, converters_of_sound sound]
  cases plan.options.justTypes with
  | true => simp
  | false =>
    simp only [Bool.false_eq_true, if_false, CombinatorSet.contains_insertAll, Bool.or_eq_true,
      decide_eq_true_eq, true_and]
    grind

theorem adds_empty (plan : Plan) (draft : Draft) : plan.Adds draft draft .empty where
  parts := (Parts.append_empty draft.parts).symm
  combinators c := by simp [Parts.calls, Parts.converters, Parts.empty]
  imports i := by simp [Parts.imports, Parts.empty]

theorem adds_withClass (draft : Draft) (id : TypeId) {c : ClassType}
    (sound : plan.bodyFault? c = none) :
    plan.Adds draft (plan.withClass draft id c) ⟨[.classBlock (plan.soundClassBlock
      (plan.begun draft id).progress.isDeclared id c)], []⟩ where
  parts := by
    simp only [Draft.parts, Parts.append, withClass, withBodyNeeds_entryPoints, List.append_nil]
    rfl
  combinators := contains_withClass sound
  imports i := by
    rw [mem_imports_withClass sound]
    simp [Parts.imports]

theorem adds_withEnum (draft : Draft) (id : TypeId) (e : EnumType) :
    plan.Adds draft (plan.withEnum draft id e) ⟨[.enumBlock (plan.enumBlock id e)], []⟩ where
  parts := by simp only [Draft.parts, Parts.append, withEnum, List.append_nil]
  combinators c := by simp [Parts.calls, Parts.converters, Block.converters, withEnum]
  imports i := by simp [Parts.imports, Block.imports, withEnum]

theorem adds_withEntryPoint (draft : Draft) {name : String} {id : TypeId}
    (sound : plan.graph.fault? id (entryLocation name) = none) :
    plan.Adds draft (plan.withEntryPoint draft name id)
      ⟨[], [plan.soundEntryPoint draft.progress.isDeclared name id]⟩ where
  parts := by
    simp only [Draft.parts, Parts.append, withEntryPoint, withHintImports, List.append_nil]
  combinators c := by
    unfold withEntryPoint
    rw [Graph.converter_of_sound _ sound, Graph.converter_of_sound _ sound]
    simp only [CombinatorSet.contains_insertAll, Bool.or_eq_true, decide_eq_true_eq, Parts.calls,
      Parts.converters, EntryPoint.converters, soundEntryPoint, List.flatMap_nil, List.nil_append,
      List.flatMap_cons, List.append_nil, List.mem_append]
    grind
  imports i := by
    unfold withEntryPoint withHintImports soundEntryPoint
    dsimp only
    rw [Graph.hint_of_sound _ sound]
    simp [Parts.imports, EntryPoint.imports, Imports.mem_added_insertAll, or_assoc]

/-- A step that succeeds adds parts with all that they need, and one that fails adds imports at
most. -/
theorem Step.adds_or_keeps {draft next : Draft} {request : Request} {outcome : Except Fault Unit}
    (step : plan.Step draft request outcome next) :
    (outcome = .ok () ∧ ∃ added, plan.Adds draft next added) ∨
      (outcome ≠ .ok () ∧ Keeps draft next) := by
  cases step with
  | unknown found => exact .inr ⟨nofun, .refl draft⟩
  | undeclarable found unnamed => exact .inr ⟨nofun, .refl draft⟩
  | again found named started => exact .inr ⟨nofun, .refl draft⟩
  | brokenClass found unseen broken =>
    refine .inr ⟨nofun, rfl, rfl, fun i registered => ?_⟩
    simp only [withBrokenClass, withFieldImports, begun, Imports.mem_added_insertAll]
    exact .inl (.inl registered)
  | soundClass found unseen sound => exact .inl ⟨rfl, _, adds_withClass draft _ sound⟩
  | enum found unseen => exact .inl ⟨rfl, _, adds_withEnum draft _ _⟩
  | passedOver types => exact .inl ⟨rfl, _, plan.adds_empty draft⟩
  | brokenEntryPoint types broken =>
    refine .inr ⟨nofun, rfl, rfl, fun i registered => ?_⟩
    simp only [withHintImports, Imports.mem_added_insertAll]
    exact .inl registered
  | soundEntryPoint types sound => exact .inl ⟨rfl, _, adds_withEntryPoint draft sound⟩

end Plan

end JsonBinding
