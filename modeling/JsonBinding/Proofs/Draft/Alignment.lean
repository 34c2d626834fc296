import JsonBinding.Proofs.Draft.Describing
import JsonBinding.Proofs.Draft.Quoting
import JsonBinding.Proofs.Source.Literal
/-!
The parts of a class that has converters. Its properties are listed six times over: in the
annotations, the parameters and the assignments of the constructor, the assignments of the reader,
the call with which the reader ends, and the assignments of the writer. A `Listing` holds these
lists each on its own. Those of a class that is declared all go through its properties in order
(`fields_line_up`), so that the call, whose arguments go by their places alone, hands every value to
the field that it was read for.
-/
namespace JsonBinding

open Source Text ClassBlock

structure Listing where
  /-- Fields with their hints. -/
  annotations : List (String × String)
  /-- Parameters of the constructor with their hints. A constructor that comes from the decorator
  has the annotated fields for parameters. -/
  parameters : List (String × String)
  /-- Attributes with the parameters that they are set to. -/
  assignments : List (String × String)
  /-- Variables of the reader with the literals of the keys that they are read from, and how. -/
  readings : List (String × String × Converter)
  /-- Variables that the reader calls the constructor with. -/
  arguments : List String
  /-- Literals of the keys that the writer sets, with the attributes that go there, and how. -/
  writings : List (String × String × Converter)

namespace Listing

def annotationLines (listing : Listing) : List String :=
  listing.annotations.map fun (name, hint) => indent (name ++ ": " ++ hint)

def constructorLines (listing : Listing) : List String :=
  ("def __init__(self" ++
      String.join (listing.parameters.map fun (name, hint) => ", " ++ name ++ ": " ++ hint) ++
      ") -> None:") ::
    (if listing.assignments.isEmpty then ["pass"]
      else listing.assignments.map fun (target, parameter) =>
        "self." ++ target ++ " = " ++ parameter).map indent

def readerLines (listing : Listing) (className : String) : List String :=
  "@staticmethod" ::
    ("def from_dict(obj: Any) -> '" ++ className ++ "':") ::
    ("assert isinstance(obj, dict)" ::
      listing.readings.map (fun (name, key, decoder) =>
        name ++ " = " ++ decoder.apply ("obj.get(" ++ key ++ ")")) ++
      ["return " ++ className ++ "(" ++ ", ".intercalate listing.arguments ++ ")"]).map indent

def writerLines (listing : Listing) : List String :=
  "def to_dict(self) -> dict:" ::
    ("result: dict = \x7b\x7d" ::
      listing.writings.map (fun (key, source, encoder) =>
        "result[" ++ key ++ "] = " ++ encoder.apply ("self." ++ source)) ++
      ["return result"]).map indent

end Listing

/-- What the variables hold after assignments in a row, of which the last to a variable counts. -/
def valueOf {α : Type} (assigned : List (String × α)) (name : String) : Option α :=
  assigned.reverse.lookup name

/-- What a parameter is bound to by a call with variables for arguments, which go by their
places. -/
def boundTo {α : Type} (assigned : List (String × α)) (parameters arguments : List String)
    (parameter : String) : Option α :=
  ((parameters.zip arguments).lookup parameter).bind (valueOf assigned)

namespace Plan

/-- The lines of a class, with the lists in their places; comments may stand between the
annotations. -/
def WritesListing (plan : Plan) (id : TypeId) (name : String) (listing : Listing)
    (lines : List String) : Prop :=
  ∃ commented, Commented listing.annotationLines commented ∧
    lines = decoratorLines plan.options.version.usesDataclasses ++
      header name :: docstringLines (plan.descriptions.ofType id) ++ commented ++
      (if listing.annotations.isEmpty then [indent "pass"] else []) ++
      methodLines ((if plan.options.version.usesDataclasses then []
        else [listing.constructorLines]) ++ [listing.readerLines name, listing.writerLines])

/-- Every list goes through the properties of a class in order, under the same names, keys and
hints, and with the converters of the properties. -/
structure LinesUp (plan : Plan) (declared : TypeId → Bool) (c : ClassType) (listing : Listing) :
    Prop where
  annotations : listing.annotations.map Prod.fst = c.properties.keys
  parameters : listing.parameters = listing.annotations
  assignments : listing.assignments = c.properties.keys.map fun name => (name, name)
  readings : listing.readings.map Prod.fst = c.properties.keys
  arguments : listing.arguments = c.properties.keys
  writings : listing.writings.map (fun row => row.2.1) = c.properties.keys
  rows : ∀ (i : Nat) name property, c.properties.entries[i]? = some (name, property) →
    ∃ hint key decoder encoder,
      listing.annotations[i]? = some (name, TypeHint.text hint) ∧
      listing.readings[i]? = some (name, key, decoder) ∧
      listing.writings[i]? = some (key, name, encoder) ∧
      (∀ rest, readLiteral (key.toList ++ rest) = some (property.jsonKey, rest)) ∧
      (plan.graph.propertyHint declared property (propertyLocation c name)).outcome = .ok hint ∧
      (plan.graph.propertyConverter .fromJson property (propertyLocation c name)).outcome =
        .ok decoder ∧
      (plan.graph.propertyConverter .toJson property (propertyLocation c name)).outcome =
        .ok encoder
  binds : ∀ {α : Type} (values : List α), values.length = listing.readings.length →
    ∀ (i : Nat) name, c.properties.keys[i]? = some name →
      boundTo ((listing.readings.map Prod.fst).zip values) (listing.parameters.map Prod.fst)
        listing.arguments name = values[i]?

end Plan

section Binding

variable {α : Type}

theorem lookup_of_mem {entries : List (String × α)} (nodup : (entries.map Prod.fst).Nodup)
    {name : String} {value : α} (among : (name, value) ∈ entries) :
    entries.lookup name = some value := by
  induction entries with
  | nil => cases among
  | cons entry rest ih =>
    obtain ⟨absent, nodup⟩ := List.nodup_cons.mp nodup
    rcases List.mem_cons.mp among with rfl | among
    · exact List.lookup_cons_self
    · have other : name ≠ entry.1 := fun same =>
        absent (List.mem_map.mpr ⟨(name, value), among, same⟩)
      rw [List.lookup_cons, beq_false_of_ne other]
      exact ih nodup among

theorem mem_zip_of_getElem? {names : List String} {values : List α} {i : Nat} {name : String}
    {value : α} (first : names[i]? = some name) (second : values[i]? = some value) :
    (name, value) ∈ names.zip values :=
  List.mem_of_getElem? (List.getElem?_zip_eq_some.mpr ⟨first, second⟩)

theorem valueOf_zip {names : List String} {values : List α} (nodup : names.Nodup)
    (length : values.length = names.length) {i : Nat} {name : String}
    (listed : names[i]? = some name) : valueOf (names.zip values) name = values[i]? := by
  obtain ⟨within, rfl⟩ := List.getElem?_eq_some_iff.mp listed
  have second : values[i]? = some values[i] := List.getElem?_eq_getElem (length ▸ within)
  rw [second]
  refine lookup_of_mem ?_ (List.mem_reverse.mpr (mem_zip_of_getElem? listed second))
  rw [List.map_reverse, List.nodup_reverse, List.map_fst_zip length.ge]
  exact nodup

/-- A call whose arguments have the names of the parameters, in the same order, gives every
parameter the value of its own variable. -/
theorem boundTo_of_aligned {names : List String} {values : List α} (nodup : names.Nodup)
    (length : values.length = names.length) {i : Nat} {name : String}
    (listed : names[i]? = some name) :
    boundTo (names.zip values) names names name = values[i]? := by
  have argument : (names.zip names).lookup name = some name := by
    refine lookup_of_mem ?_ (mem_zip_of_getElem? listed listed)
    rw [List.map_fst_zip le_rfl]
    exact nodup
  rw [boundTo, argument]
  exact valueOf_zip nodup length listed

end Binding

namespace Plan

variable {plan : Plan}

/-- The lists of a sound class. -/
def listing (plan : Plan) (declared : TypeId → Bool) (c : ClassType) : Listing :=
  let hints := c.properties.entries.map fun (name, property) =>
    (name, (plan.graph.propertyHintTree declared property).text)
  { annotations := hints
    parameters := hints
    assignments := c.properties.keys.map fun name => (name, name)
    readings := c.properties.entries.map fun (name, property) =>
      (name, literal property.jsonKey, plan.graph.propertyConverterTree .fromJson property)
    arguments := c.properties.keys
    writings := c.properties.entries.map fun (name, property) =>
      (literal property.jsonKey, name, plan.graph.propertyConverterTree .toJson property) }

theorem writesListing_soundClassBlock (converting : plan.options.justTypes = false)
    (declared : TypeId → Bool) (id : TypeId) (c : ClassType) :
    plan.WritesListing id c.name (plan.listing declared c)
      (plan.soundClassBlock declared id c).lines := by
  refine ⟨((plan.soundFields declared id c).flatMap Field.lines).map indent, ?_, ?_⟩
  · have hints : (plan.listing declared c).annotationLines =
        (plan.soundFields declared id c).map Field.hintLine := by
      simp only [Listing.annotationLines, listing, soundFields, List.map_map]
      rfl
    rw [hints]
    exact commented_fields _
  · have pass : passLines (plan.soundFields declared id c) =
        if (plan.listing declared c).annotations.isEmpty then [indent "pass"] else [] := by
      simp only [passLines, soundFields, listing, List.isEmpty_map]
    have methods : plan.soundMethods declared id c =
        (if plan.options.version.usesDataclasses then []
          else [(plan.listing declared c).constructorLines]) ++
        [(plan.listing declared c).readerLines c.name, (plan.listing declared c).writerLines] := by
      simp only [soundMethods, converting, Bool.false_eq_true, if_false, accessors, soundMembers_eq,
        constructorLines, readerLines, writerLines, Listing.constructorLines, Listing.readerLines,
        Listing.writerLines, listing, soundFields, OrderedMap.keys, List.isEmpty_map, List.map_map]
      rfl
    rw [lines_soundClassBlock, soundHead, bodyLines_eq, pass, methods]
    simp only [List.append_assoc, List.cons_append]

theorem linesUp_listing (declared : TypeId → Bool) {c : ClassType}
    (sound : plan.bodyFault? c = none) : plan.LinesUp declared c (plan.listing declared c) where
  annotations := by
    simp only [listing, List.map_map]
    rfl
  parameters := rfl
  assignments := rfl
  readings := by
    simp only [listing, List.map_map]
    rfl
  arguments := rfl
  writings := by
    simp only [listing, List.map_map]
    rfl
  rows i name property listed := by
    have among : (name, property) ∈ c.properties.entries := List.mem_of_getElem? listed
    have faultless := fault?_of_sound sound among
    refine ⟨plan.graph.propertyHintTree declared property, literal property.jsonKey,
      plan.graph.propertyConverterTree .fromJson property,
      plan.graph.propertyConverterTree .toJson property, ?_, ?_, ?_,
      readLiteral_literal property.jsonKey, ?_, ?_, ?_⟩
    · simp [listing, listed]
    · simp [listing, listed]
    · simp [listing, listed]
    · rw [Graph.outcome_propertyHint, faultless]
      rfl
    · rw [Graph.outcome_propertyConverter, faultless]
      rfl
    · rw [Graph.outcome_propertyConverter, faultless]
      rfl
  binds values length i name listed := by
    have keys : (plan.listing declared c).readings.map Prod.fst = c.properties.keys := by
      simp only [listing, List.map_map]
      rfl
    have parameters : (plan.listing declared c).parameters.map Prod.fst = c.properties.keys := by
      simp only [listing, List.map_map]
      rfl
    have arguments : (plan.listing declared c).arguments = c.properties.keys := rfl
    rw [keys, parameters, arguments]
    have lengths : values.length = c.properties.keys.length := by
      rw [length, ← keys, List.length_map]
    exact boundTo_of_aligned c.properties.nodup lengths listed

theorem filter_blocks_eq (plan : Plan) {requests : List Request} {block : Block}
    (among : block ∈ (plan.draftOf requests).blocks) :
    (plan.draftOf requests).blocks.filter (·.id = block.id) = [block] := by
  have nodup := (plan.ledger requests).nodup
  rw [← (plan.ledger requests).blocks] at nodup
  obtain ⟨before, behind, cut⟩ := List.append_of_mem among
  rw [cut, List.map_append, List.map_cons, List.nodup_append] at nodup
  obtain ⟨-, later, apart⟩ := nodup
  have first : before.filter (·.id = block.id) = [] := by
    refine List.filter_eq_nil_iff.mpr fun other earlier => ?_
    rw [decide_eq_true_eq]
    exact apart _ (List.mem_map_of_mem earlier) _ List.mem_cons_self
  have last : behind.filter (·.id = block.id) = [] := by
    refine List.filter_eq_nil_iff.mpr fun other after same => ?_
    rw [decide_eq_true_eq] at same
    exact (List.nodup_cons.mp later).1 (same ▸ List.mem_map_of_mem after)
  simp [cut, first, last]

/-- A class that was declared somewhere in a run stands in the module that the run leaves, and was
written when the types before it were declared. -/
theorem exists_block_of_declared {requests : List Request} {id : TypeId} {c : ClassType}
    (found : plan.graph.get? id = some (.classType c))
    (declared : (.declare id, .ok ()) ∈ plan.history requests) :
    ∃ earlier later, requests = earlier ++ .declare id :: later ∧ plan.bodyFault? c = none ∧
      .classBlock (plan.soundClassBlock (plan.draftOf earlier).progress.isDeclared id c) ∈
        (plan.draftOf requests).blocks := by
  obtain ⟨earlier, later, rfl, step⟩ := exists_cut_of_mem_attempts declared
  obtain ⟨sound, blocks⟩ := step.blocks_of_class found
  refine ⟨earlier, later, rfl, sound, ?_⟩
  have stays := plan.prefix_blocks_after later (plan.after (earlier ++ [.declare id]) .empty)
  rw [← after_append, List.append_assoc, List.singleton_append, blocks] at stays
  exact stays.subset (List.mem_append_right _ (List.mem_singleton_self _))

/-- A class that is declared in a module with converters stands there once, and all the lists in its
lines go through its properties in order. -/
theorem fields_line_up (converting : plan.options.justTypes = false) {requests : List Request}
    {id : TypeId} {c : ClassType} (found : plan.graph.get? id = some (.classType c))
    (declared : (.declare id, .ok ()) ∈ plan.history requests) :
    ∃ earlier later block listing, requests = earlier ++ .declare id :: later ∧
      (plan.draftOf requests).blocks.filter (·.id = id) = [.classBlock block] ∧
      plan.WritesListing id c.name listing block.lines ∧
      plan.LinesUp (plan.draftOf earlier).progress.isDeclared c listing := by
  obtain ⟨earlier, later, cut, sound, among⟩ := exists_block_of_declared found declared
  exact ⟨earlier, later, _, _, cut, plan.filter_blocks_eq among,
    writesListing_soundClassBlock converting _ id c, linesUp_listing _ sound⟩

/-- A class whose properties are read from one another's names, one of them optional. -/
def crossed : Plan where
  graph := ⟨#[.classType ⟨"Pair", .ofList [("left", ⟨"right\"", ⟨1⟩, true⟩),
    ("right", ⟨"left", ⟨2⟩, false⟩)]⟩, .primitive .integer, .array ⟨0⟩]⟩
  descriptions := Descriptions.none.describeProperty ⟨0⟩ "right" "Below."
  options := { version := .v36 }

theorem crossed_line_up :
    crossed.history [.declare ⟨1⟩, .declare ⟨0⟩] =
        [(.declare ⟨1⟩, .error (.undeclarable (.primitive .integer) ⟨.declaration ⟨1⟩, []⟩)),
          (.declare ⟨0⟩, .ok ())] ∧
      ∃ block listing,
        (crossed.draftOf [.declare ⟨1⟩, .declare ⟨0⟩]).blocks.filter (·.id = ⟨0⟩) =
          [.classBlock block] ∧
        crossed.WritesListing ⟨0⟩ "Pair" listing block.lines ∧
        listing.annotations.map Prod.fst = ["left", "right"] ∧
        listing.arguments = ["left", "right"] ∧
        boundTo ((listing.readings.map Prod.fst).zip [1, 2]) (listing.parameters.map Prod.fst)
          listing.arguments "right" = some 2 := by
  have history : crossed.history [.declare ⟨1⟩, .declare ⟨0⟩] =
      [(.declare ⟨1⟩, .error (.undeclarable (.primitive .integer) ⟨.declaration ⟨1⟩, []⟩)),
        (.declare ⟨0⟩, .ok ())] := rfl
  have declared : (.declare ⟨0⟩, .ok ()) ∈ crossed.history [.declare ⟨1⟩, .declare ⟨0⟩] := by
    rw [history]
    exact List.mem_cons_of_mem _ List.mem_cons_self
  obtain ⟨earlier, later, block, listing, -, only, written, aligned⟩ :=
    fields_line_up rfl rfl declared
  have length : [1, 2].length = listing.readings.length := by
    have keys := congrArg List.length aligned.readings
    rw [List.length_map] at keys
    exact keys.symm
  exact ⟨history, block, listing, only, written, aligned.annotations, aligned.arguments,
    aligned.binds [1, 2] length 1 "right" rfl⟩

end Plan

end JsonBinding
