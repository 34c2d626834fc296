import JsonBinding.Proofs.Draft.Carriage
import JsonBinding.Proofs.Draft.Scope
import JsonBinding.Proofs.Name.Plain
/-!
Names of types that a module takes for its variables. A module writes converters in the methods of
its classes and in the helpers of its entry points, and binds variables around them. Reserved names
keep types clear of the variables of methods, but neither the variable of functions without a name
nor those of helpers are reserved: `x` and `s` are the names that get captured, and
`captured_iff` says where.
-/
namespace JsonBinding

open Source Text

/-- An expression as it is written in a module. -/
structure Place where
  scope : Scope
  /-- What stands in front of the expression in its line. -/
  before : String
  expression : Expression

namespace Place

def line (place : Place) : String :=
  place.before ++ place.expression.text

def mentions (place : Place) : List Mention :=
  place.expression.mentions [place.scope]

end Place

namespace Member

def reading (member : Member) : Place where
  scope := .readerMethod
  before := member.field.name ++ " = "
  expression := member.decoder.applied (.value ("obj.get(" ++ literal member.field.jsonKey ++ ")"))

def writing (member : Member) : Place where
  scope := .writerMethod
  before := "result[" ++ literal member.field.jsonKey ++ "] = "
  expression := member.encoder.applied (.value ("self." ++ member.field.name))

theorem readLine_eq (member : Member) : member.readLine = member.reading.line := by
  rw [readLine, Place.line, reading, Converter.text_applied, Expression.text]

theorem writeLine_eq (member : Member) : member.writeLine = member.writing.line := by
  rw [writeLine, Place.line, writing, Converter.text_applied, Expression.text]

end Member

namespace EntryPoint

def reading (entry : EntryPoint) : Place where
  scope := .readerHelper
  before := "return "
  expression := entry.decoder.applied (.value readerArgument)

def writing (entry : EntryPoint) : Place where
  scope := .writerHelper
  before := "return "
  expression := entry.encoder.applied (.value writerArgument)

theorem readerLines_eq (entry : EntryPoint) :
    entry.readerLines = [
      "def " ++ entry.function ++ "_from_dict(" ++ readerArgument ++ ": Any) -> " ++
        entry.hint.text ++ ":",
      indent entry.reading.line] := by
  rw [readerLines, Place.line, reading, Converter.text_applied, Expression.text]

theorem writerLines_eq (entry : EntryPoint) :
    entry.writerLines = [
      "def " ++ entry.function ++ "_to_dict(" ++ writerArgument ++ ": " ++ entry.hint.text ++
        ") -> Any:",
      indent entry.writing.line] := by
  rw [writerLines, Place.line, writing, Converter.text_applied, Expression.text]

end EntryPoint

def ClassBody.memberList : ClassBody → List Member
  | .fields _ => []
  | .members list => list

def Block.places : Block → List Place
  | .classBlock block =>
    block.body.memberList.flatMap fun member => [member.reading, member.writing]
  | .enumBlock _ => []

/-- The places of a draft where converters are written. -/
def Draft.places (draft : Draft) : List Place :=
  draft.blocks.flatMap Block.places ++
    draft.entryPoints.flatMap fun entry => [entry.reading, entry.writing]

namespace ClassBlock

theorem mem_lines_of_mem_method {block : ClassBlock} {method : List String} {line : String}
    (listed : method ∈ block.methods) (own : line ∈ method) : indent line ∈ block.lines :=
  List.mem_append_right _ (List.mem_flatMap.mpr
    ⟨method, listed, List.mem_cons_of_mem _ (List.mem_map_of_mem own)⟩)

theorem mem_readerLines {name : String} {members : List Member} {member : Member}
    (among : member ∈ members) : indent member.readLine ∈ readerLines name members := by
  have body : member.readLine ∈ "assert isinstance(obj, dict)" :: members.map Member.readLine ++
      ["return " ++ name ++ "(" ++ ", ".intercalate (members.map (·.field.name)) ++ ")"] :=
    List.mem_append_left _ (List.mem_cons_of_mem _ (List.mem_map_of_mem among))
  exact List.mem_cons_of_mem _ (List.mem_cons_of_mem _ (List.mem_map_of_mem body))

theorem mem_writerLines {members : List Member} {member : Member} (among : member ∈ members) :
    indent member.writeLine ∈ writerLines members := by
  have body : member.writeLine ∈
      "result: dict = \x7b\x7d" :: members.map Member.writeLine ++ ["return result"] :=
    List.mem_append_left _ (List.mem_cons_of_mem _ (List.mem_map_of_mem among))
  exact List.mem_cons_of_mem _ (List.mem_map_of_mem body)

theorem mem_methods_of_mem_memberList (block : ClassBlock) {member : Member}
    (among : member ∈ block.body.memberList) :
    readerLines block.name block.body.memberList ∈ block.methods ∧
      writerLines block.body.memberList ∈ block.methods := by
  obtain ⟨id, name, description, isDataclass, body⟩ := block
  cases body with
  | fields list => cases among
  | members list =>
    exact ⟨List.mem_append_right _ List.mem_cons_self,
      List.mem_append_right _ (List.mem_cons_of_mem _ List.mem_cons_self)⟩

end ClassBlock

theorem Block.mem_lines_of_mem_places {block : Block} {place : Place}
    (among : place ∈ block.places) : indent (indent place.line) ∈ block.lines := by
  cases block with
  | enumBlock block => cases among
  | classBlock block =>
    obtain ⟨member, listed, own⟩ := List.mem_flatMap.mp among
    obtain ⟨reader, writer⟩ := block.mem_methods_of_mem_memberList listed
    rcases List.mem_pair.mp own with rfl | rfl
    · rw [← member.readLine_eq]
      exact ClassBlock.mem_lines_of_mem_method reader (ClassBlock.mem_readerLines listed)
    · rw [← member.writeLine_eq]
      exact ClassBlock.mem_lines_of_mem_method writer (ClassBlock.mem_writerLines listed)

theorem Block.exists_converter_of_mem_places {block : Block} {place : Place}
    (among : place ∈ block.places) :
    ∃ c ∈ block.converters, ∃ value, place.expression = c.applied (.value value) := by
  cases block with
  | enumBlock block => cases among
  | classBlock block =>
    obtain ⟨id, name, description, isDataclass, body⟩ := block
    obtain ⟨member, listed, own⟩ := List.mem_flatMap.mp among
    cases body with
    | fields list => cases listed
    | members list =>
      have converters : ∀ c ∈ [member.decoder, member.encoder],
          c ∈ (classBlock ⟨id, name, description, isDataclass, .members list⟩).converters :=
        fun c own => List.mem_flatMap.mpr ⟨member, listed, own⟩
      rcases List.mem_pair.mp own with rfl | rfl
      · exact ⟨member.decoder, converters _ (List.mem_pair.mpr (.inl rfl)), _, rfl⟩
      · exact ⟨member.encoder, converters _ (List.mem_pair.mpr (.inr rfl)), _, rfl⟩

theorem Draft.exists_converter_of_mem_places {draft : Draft} {place : Place}
    (among : place ∈ draft.places) :
    ∃ c ∈ draft.parts.converters, ∃ value, place.expression = c.applied (.value value) := by
  rcases List.mem_append.mp among with inside | inside
  · obtain ⟨block, listed, own⟩ := List.mem_flatMap.mp inside
    obtain ⟨c, written, value, same⟩ := Block.exists_converter_of_mem_places own
    exact ⟨c, List.mem_append_left _ (List.mem_flatMap.mpr ⟨block, listed, written⟩), value, same⟩
  · obtain ⟨entry, listed, own⟩ := List.mem_flatMap.mp inside
    have converters : ∀ c ∈ entry.converters, c ∈ draft.parts.converters := fun c own =>
      List.mem_append_right _ (List.mem_flatMap.mpr ⟨entry, listed, own⟩)
    rcases List.mem_pair.mp own with rfl | rfl
    · exact ⟨entry.decoder, converters _ (List.mem_pair.mpr (.inl rfl)), _, rfl⟩
    · exact ⟨entry.encoder, converters _ (List.mem_pair.mpr (.inr rfl)), _, rfl⟩

/-- What is written at the places of a draft stands in the text of the module. -/
theorem Draft.infix_of_mem_places {draft : Draft} (options : Options) {place : Place}
    (among : place ∈ draft.places) :
    place.line.toList <:+: (draft.rawText options).toList := by
  rcases List.mem_append.mp among with inside | inside
  · obtain ⟨block, listed, own⟩ := List.mem_flatMap.mp inside
    have line : (indent (indent place.line)).toList <:+: block.text.toList :=
      infix_intercalate (Block.mem_lines_of_mem_places own)
    have chunk : block.text ∈ draft.chunks :=
      List.mem_append_left _ (List.mem_append_right _ (List.mem_map_of_mem listed))
    exact (((infix_indent _).trans (infix_indent _)).trans line).trans (infix_rawText chunk)
  · obtain ⟨entry, listed, own⟩ := List.mem_flatMap.mp inside
    have chunk : ∀ helper ∈ entry.helpers, helper ∈ draft.chunks := fun helper held =>
      List.mem_append_right _ (List.mem_flatMap.mpr ⟨entry, listed, held⟩)
    have inside {lines : List String} (helper : unlines lines ∈ entry.helpers)
        (line : indent place.line ∈ lines) :
        place.line.toList <:+: (draft.rawText options).toList :=
      ((infix_indent _).trans (infix_intercalate line)).trans (infix_rawText (chunk _ helper))
    rcases List.mem_pair.mp own with rfl | rfl
    · refine inside (List.mem_pair.mpr (.inl rfl)) ?_
      rw [entry.readerLines_eq]
      exact List.mem_pair.mpr (.inr rfl)
    · refine inside (List.mem_pair.mpr (.inr rfl)) ?_
      rw [entry.writerLines_eq]
      exact List.mem_pair.mpr (.inr rfl)

def Graph.Declares (g : Graph) (name : String) : Prop :=
  ∃ id node, g.get? id = some node ∧ node.declaredName? = some name

theorem Graph.Declares.plain {g : Graph} (plain : g.NamesPlain) {name : String}
    (declares : g.Declares name) : IsPlainName name := by
  obtain ⟨id, node, found, named⟩ := declares
  exact plain.of_get? found named

def Converter.NamesDeclared (g : Graph) (c : Converter) : Prop :=
  ∀ name ∈ c.names, g.Declares name

namespace Converter

variable {g : Graph}

theorem namesDeclared_union {members : List Converter}
    (each : ∀ member ∈ members, member.NamesDeclared g) : (union members).NamesDeclared g := by
  intro name among
  rw [names, memberNames_eq_flatMap] at among
  obtain ⟨member, listed, own⟩ := List.mem_flatMap.mp among
  exact each member listed name own

theorem Formed.namesDeclared {c : Converter} (formed : c.Formed g) : c.NamesDeclared g := by
  induction formed with
  | identity | function => exact List.forall_mem_nil _
  | nested _ _ ih => exact ih
  | union _ ih => exact namesDeclared_union ih
  | classFromDict found named | enumValue found named | typed _ found named =>
    exact List.forall_mem_singleton.mpr ⟨_, _, found, named⟩

end Converter

namespace Plan

variable {plan : Plan}

/-- All types that the converters of a draft mention are declared in the graph. -/
def NamesDeclared (plan : Plan) (parts : Parts) : Prop :=
  ∀ c ∈ parts.converters, c.NamesDeclared plan.graph

theorem NamesDeclared.append {parts more : Parts} (h : plan.NamesDeclared parts)
    (added : plan.NamesDeclared more) : plan.NamesDeclared (parts.append more) := by
  intro c among
  rcases Parts.mem_converters_append.mp among with old | new
  · exact h c old
  · exact added c new

theorem namesDeclared_soundClassBlock (declared : TypeId → Bool) (id : TypeId) (c : ClassType) :
    plan.NamesDeclared ⟨[.classBlock (plan.soundClassBlock declared id c)], []⟩ := by
  have body : (plan.soundClassBlock declared id c).body = if plan.options.justTypes
      then .fields (plan.soundFields declared id c)
      else .members (plan.soundMembers declared id c) := rfl
  intro converter among
  simp only [Parts.converters, Block.converters, body, List.flatMap_cons, List.flatMap_nil,
    List.append_nil] at among
  cases types : plan.options.justTypes with
  | true =>
    simp only [types, if_true] at among
    cases among
  | false =>
    simp only [types, Bool.false_eq_true, if_false, soundMembers_eq, List.flatMap_map] at among
    obtain ⟨⟨name, property⟩, -, own⟩ := List.mem_flatMap.mp among
    rcases List.mem_pair.mp own with rfl | rfl
    · exact (plan.graph.formed_propertyConverterTree .fromJson property).namesDeclared
    · exact (plan.graph.formed_propertyConverterTree .toJson property).namesDeclared

theorem namesDeclared_soundEntryPoint (declared : TypeId → Bool) (name : String) (id : TypeId) :
    plan.NamesDeclared ⟨[], [plan.soundEntryPoint declared name id]⟩ := by
  refine List.forall_mem_cons.mpr ⟨?_, List.forall_mem_singleton.mpr ?_⟩
  · exact (plan.graph.formed_converterTree .fromJson id).namesDeclared
  · exact (plan.graph.formed_converterTree .toJson id).namesDeclared

theorem Step.namesDeclared {draft next : Draft} {request : Request} {outcome : Except Fault Unit}
    (step : plan.Step draft request outcome next) (h : plan.NamesDeclared draft.parts) :
    plan.NamesDeclared next.parts := by
  cases step with
  | unknown | undeclarable | again | passedOver => exact h
  | brokenClass | brokenEntryPoint => exact h
  | soundClass found unseen sound =>
    rw [(adds_withClass draft _ sound).parts]
    exact h.append (namesDeclared_soundClassBlock _ _ _)
  | enum found =>
    rw [(plan.adds_withEnum draft _ _).parts]
    exact h.append (List.forall_mem_nil _)
  | soundEntryPoint types sound =>
    rw [(adds_withEntryPoint draft sound).parts]
    exact h.append (namesDeclared_soundEntryPoint _ _ _)

theorem namesDeclared (plan : Plan) (requests : List Request) :
    plan.NamesDeclared (plan.draftOf requests).parts := by
  have start : plan.NamesDeclared Draft.empty.parts := List.forall_mem_nil _
  exact @run_induction plan (fun _ draft => plan.NamesDeclared draft.parts)
    (fun _ _ _ _ _ h step => step.namesDeclared h) requests [] .empty start

/-- The variables of methods are reserved, so types do not go by their names. -/
theorem mem_variables_iff {name : String} (plain : IsPlainName name) (scope : Scope) :
    name ∈ scope.variables ↔
      (name = Converter.argument ∧ (scope = .lambda ∨ scope = .writerHelper)) ∨
        (name = EntryPoint.readerArgument ∧ scope = .readerHelper) := by
  have clear {word : String} (reserved : isReserved word = true) : name ≠ word :=
    Lead.named_ne_of_isReserved plain reserved
  have object : name ≠ "obj" := clear (by decide)
  have self : name ≠ "self" := clear (by decide)
  have result : name ≠ "result" := clear (by decide)
  cases scope <;>
    simp [Scope.variables, Converter.argument, EntryPoint.readerArgument,
      EntryPoint.writerArgument, object, self, result]

theorem captured_iff_of_scopes {m : Mention} (plain : IsPlainName m.type) {depth : Nat}
    {scope : Scope} (scopes : m.scopes = List.replicate depth .lambda ++ [scope]) :
    m.Captured ↔
      (m.type = Converter.argument ∧ (.lambda ∈ m.scopes ∨ scope = .writerHelper)) ∨
        (m.type = EntryPoint.readerArgument ∧ scope = .readerHelper) := by
  have only (other : Scope) (named : other ≠ .lambda) : other ∈ m.scopes ↔ scope = other := by
    rw [scopes, List.mem_append, List.mem_replicate, List.mem_singleton]
    simp [named, eq_comm]
  simp only [Mention.Captured, mem_variables_iff plain, ← only .writerHelper nofun,
    ← only .readerHelper nofun]
  constructor
  · rintro ⟨inner, among, ⟨type, rfl | rfl⟩ | ⟨type, rfl⟩⟩
    · exact .inl ⟨type, .inl among⟩
    · exact .inl ⟨type, .inr among⟩
    · exact .inr ⟨type, among⟩
  · rintro (⟨type, among | among⟩ | ⟨type, among⟩)
    · exact ⟨_, among, .inl ⟨type, .inl rfl⟩⟩
    · exact ⟨_, among, .inl ⟨type, .inr rfl⟩⟩
    · exact ⟨_, among, .inr ⟨type, rfl⟩⟩

theorem declares_of_mem_mentions {requests : List Request} {place : Place}
    (written : place ∈ (plan.draftOf requests).places) {m : Mention} (among : m ∈ place.mentions) :
    plan.graph.Declares m.type := by
  obtain ⟨c, held, value, same⟩ := Draft.exists_converter_of_mem_places written
  refine plan.namesDeclared requests c held m.type ?_
  rw [← c.types_applied value [place.scope], ← same]
  exact List.mem_map_of_mem among

/-- In the converters that stand in the text of a module the name of a type is captured iff it is
`x`, and stands in a function without a name or in a helper that writes, or it is `s`, and stands in
a helper that reads. So no variable of a method captures the name of a type, and where no type is
named `x` or `s` nothing does. -/
theorem captured_iff {plan : Plan} (plain : plan.graph.NamesPlain) (requests : List Request) :
    (∀ place ∈ (plan.draftOf requests).places,
      place.line.toList <:+: ((plan.draftOf requests).rawText plan.options).toList ∧
      ∀ m ∈ place.mentions,
        plan.graph.Declares m.type ∧
        (∃ depth, m.scopes = List.replicate depth .lambda ++ [place.scope]) ∧
        (m.Captured ↔
          (m.type = Converter.argument ∧ (.lambda ∈ m.scopes ∨ place.scope = .writerHelper)) ∨
            (m.type = EntryPoint.readerArgument ∧ place.scope = .readerHelper))) ∧
    (¬ plan.graph.Declares Converter.argument → ¬ plan.graph.Declares EntryPoint.readerArgument →
      ∀ place ∈ (plan.draftOf requests).places, ∀ m ∈ place.mentions, ¬ m.Captured) := by
  have captured : ∀ place ∈ (plan.draftOf requests).places, ∀ m ∈ place.mentions,
      (m.Captured ↔
        (m.type = Converter.argument ∧ (.lambda ∈ m.scopes ∨ place.scope = .writerHelper)) ∨
          (m.type = EntryPoint.readerArgument ∧ place.scope = .readerHelper)) := by
    intro place written m among
    obtain ⟨depth, scopes⟩ := Expression.scopes_of_mem_mentions among
    exact captured_iff_of_scopes ((declares_of_mem_mentions written among).plain plain) scopes
  constructor
  · intro place written
    refine ⟨Draft.infix_of_mem_places plan.options written, fun m among => ?_⟩
    exact ⟨declares_of_mem_mentions written among, Expression.scopes_of_mem_mentions among,
      captured place written m among⟩
  · intro noArgument noReader place written m among capture
    have declares := declares_of_mem_mentions written among
    rcases (captured place written m among).mp capture with ⟨type, -⟩ | ⟨type, -⟩
    · exact noArgument (type ▸ declares)
    · exact noReader (type ▸ declares)

/-- A class named `x` that holds a list of lists of its own, and an enum named `s`. -/
def shortNames : Plan where
  graph := ⟨#[
    .classType ⟨"x", .ofList [("next", ⟨"next", ⟨0⟩, true⟩), ("grid", ⟨"grid", ⟨1⟩, false⟩)]⟩,
    .array ⟨2⟩, .array ⟨0⟩, .enumType ⟨"s", .ofList [("KIND", "kind")]⟩]⟩
  descriptions := .none
  options := {}

/-- The name of a class is kept where it stands in no function, and captured where it does. -/
theorem shortNames_captured :
    shortNames.graph.NamesPlain ∧
      ∃ kept ∈ (shortNames.draftOf [.declare ⟨3⟩, .declare ⟨0⟩]).places,
      ∃ taken ∈ (shortNames.draftOf [.declare ⟨3⟩, .declare ⟨0⟩]).places,
        kept.line = "next = from_optional(x.from_dict, obj.get(\"next\"))" ∧
        (∀ m ∈ kept.mentions, ¬ m.Captured) ∧
        taken.line = "grid = from_list(lambda x: from_list(x.from_dict, x), obj.get(\"grid\"))" ∧
        ∀ m ∈ taken.mentions, m.Captured := by
  let kept : Place := ⟨.readerMethod, "next = ",
    (Converter.nested .fromOptional (.classFromDict "x")).applied
      (.value "obj.get(\"next\")")⟩
  let taken : Place := ⟨.readerMethod, "grid = ",
    (Converter.nested .fromList (.nested .fromList (.classFromDict "x"))).applied
      (.value "obj.get(\"grid\")")⟩
  have plain : shortNames.graph.NamesPlain := by decide +kernel
  have atKept : kept ∈ (shortNames.draftOf [.declare ⟨3⟩, .declare ⟨0⟩]).places :=
    List.mem_of_getElem? (i := 0) rfl
  have atTaken : taken ∈ (shortNames.draftOf [.declare ⟨3⟩, .declare ⟨0⟩]).places :=
    List.mem_of_getElem? (i := 2) rfl
  obtain ⟨each, -⟩ := captured_iff plain [.declare ⟨3⟩, .declare ⟨0⟩]
  refine ⟨plain, kept, atKept, taken, atTaken, by decide, ?_, by decide, ?_⟩
  · intro m among capture
    have only : m = ⟨"x", [.readerMethod]⟩ := List.mem_singleton.mp among
    rcases ((each kept atKept).2 m among).2.2.mp capture with ⟨-, inside | helper⟩ | ⟨-, helper⟩
    · rw [only] at inside
      exact absurd inside (by decide)
    · cases helper
    · cases helper
  · intro m among
    have only : m = ⟨"x", [.lambda, .readerMethod]⟩ := List.mem_singleton.mp among
    refine ((each taken atTaken).2 m among).2.2.mpr (.inl ?_)
    rw [only]
    exact ⟨rfl, .inl List.mem_cons_self⟩

def shortName : Plan where
  graph := ⟨#[.classType ⟨"x", .empty⟩]⟩
  descriptions := .none
  options := {}

/-- The helper that writes a class named `x` hands on its argument in place of the class. -/
theorem shortName_captured :
    shortName.graph.NamesPlain ∧ isIdentifierStart 'x' = true ∧ shortName.graph.InlineAcyclic ∧
      (shortName.draftOf (requests [⟨0⟩] (.ofList [("item", ⟨0⟩)]))).entryPoints.map
        EntryPoint.writerLines = [["def item_to_dict(x: x) -> Any:", "    return to_class(x, x)"]] ∧
      ∃ place ∈ (shortName.draftOf (requests [⟨0⟩] (.ofList [("item", ⟨0⟩)]))).places,
        place.line = "return to_class(x, x)" ∧ ∃ m ∈ place.mentions, m.Captured := by
  let writing : Place := ⟨.writerHelper, "return ", (Converter.typed .toClass "x").applied
    (.value "x")⟩
  have written : writing ∈
      (shortName.draftOf (requests [⟨0⟩] (.ofList [("item", ⟨0⟩)]))).places :=
    List.mem_of_getElem? (i := 1) rfl
  refine ⟨by decide +kernel, by decide +kernel, Graph.inlineAcyclic_of_ascending (by decide),
    by decide +kernel, writing, written, by decide, ⟨"x", [.writerHelper]⟩, ?_, by decide⟩
  exact List.mem_singleton.mpr rfl

end Plan

end JsonBinding
