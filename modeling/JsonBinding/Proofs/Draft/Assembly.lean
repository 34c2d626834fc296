import JsonBinding.Proofs.Draft.ClassLines
import JsonBinding.Proofs.Draft.Importing
import JsonBinding.Proofs.Draft.Ledger
import JsonBinding.Proofs.Draft.Support
import JsonBinding.Proofs.Name.Plain
import JsonBinding.Proofs.Source.Ending
/-!
How a module is put together at the end. Its end is settled by trimming, which would take white
space from the last part as well. No part ends in any, whatever free text has got into it, so that
nothing is taken but the line feeds between the comment that comes first and a body that is not
there (`assembly_loses_nothing`). The only names that can stand last in a part are those of classes
and enums, in the last annotation of a class without methods.
-/
namespace JsonBinding

open Source Text ClassBlock

/-- The names of classes and enums end in characters that show, as all words do
(`Graph.NamesPlain.namesShown`). -/
def Graph.NamesShown (g : Graph) : Prop :=
  ∀ node ∈ g.nodes, ∀ name ∈ node.declaredName?, EndsShown name

instance (g : Graph) : Decidable g.NamesShown :=
  inferInstanceAs (Decidable (∀ node ∈ g.nodes, ∀ name ∈ node.declaredName?, EndsShown name))

section Words

theorem isWhitespace_of_isIdentifierContinue {c : Char} (goesOn : isIdentifierContinue c = true) :
    Character.isWhitespace c = false := by
  have breaks : ∀ range ∈ Character.whiteSpace,
      ∀ n ∈ List.range' range.1 (range.2 + 1 - range.1),
        isIdentifierContinue (Char.ofNat n) = false := by
    decide +kernel
  rw [← Bool.not_eq_true]
  intro blank
  obtain ⟨range, listed, within⟩ := List.any_eq_true.mp blank
  simp only [Bool.and_eq_true, decide_eq_true_eq] at within
  have inside : c.toNat ∈ List.range' range.1 (range.2 + 1 - range.1) := by
    rw [List.mem_range'_1]
    omega
  have stops := breaks range listed c.toNat inside
  rw [Char.ofNat_toNat, goesOn] at stops
  cases stops

theorem IsPlainName.endsShown {name : String} (plain : IsPlainName name) : EndsShown name := by
  have letters : name.toList ≠ [] := fun none =>
    plain.nonempty (String.toList_injective none)
  obtain ⟨front, c, whole⟩ := (List.eq_nil_or_concat' name.toList).resolve_left letters
  refine ⟨c, whole ▸ List.getLast?_concat, isWhitespace_of_isIdentifierContinue ?_⟩
  exact plain.word c (whole ▸ List.mem_append_right front (List.mem_singleton_self c))

theorem Graph.NamesPlain.namesShown {g : Graph} (plain : g.NamesPlain) : g.NamesShown :=
  fun node among name named => (plain node among name named).endsShown

end Words

section Hints

theorem Primitive.endsShown_hintTree (p : Primitive) : EndsShown p.hintTree.text := by
  cases p <;> decide

theorem TypeHint.endsShown_reference {name : String} (shown : EndsShown name) (id : TypeId)
    (quoted : Bool) : EndsShown (TypeHint.reference id name quoted).text := by
  cases quoted with
  | false => exact shown
  | true => exact EndsShown.append (by decide) _

namespace Graph.NamesShown

variable {g : Graph}

theorem of_get? (names : g.NamesShown) {id : TypeId} {node : Node} (found : g.get? id = some node)
    {name : String} (named : node.declaredName? = some name) : EndsShown name :=
  names node (Array.mem_of_getElem? found) name named

/-- A hint ends in a bracket, in a quote, in a word of its own or in a name. -/
theorem hintTree (names : g.NamesShown) (declared : TypeId → Bool) (id : TypeId) :
    EndsShown ((g.inline id).hintTree declared).text := by
  have any : EndsShown TypeHint.any.text := by decide
  have datetime : EndsShown TypeHint.datetime.text := by decide
  apply g.expand_induction (motive := fun t => EndsShown (t.hintTree declared).text)
  case primitive => exact Primitive.endsShown_hintTree
  case array | map | nullable => exact fun _ _ => EndsShown.append (by decide) _
  case classRef =>
    exact fun id c found => TypeHint.endsShown_reference (names.of_get? found rfl) id _
  case enumRef =>
    exact fun id e found => TypeHint.endsShown_reference (names.of_get? found rfl) id _
  case formatted =>
    intro f
    cases f with
    | dateTime => exact datetime
    | date | time | uuid | uri | integerString | boolString => exact any
  case single => exact fun _ ih => ih
  case union => exact fun _ _ => EndsShown.append (by decide) _
  case emptyUnion => exact any
  case missing | endless => exact fun _ => any

theorem propertyHintTree (names : g.NamesShown) (declared : TypeId → Bool) (property : Property) :
    EndsShown (g.propertyHintTree declared property).text := by
  unfold Graph.propertyHintTree
  cases g.wraps property with
  | false => exact names.hintTree declared property.type
  | true => exact EndsShown.append (by decide) _

end Graph.NamesShown

end Hints

theorem Converter.endsShown_apply (c : Converter) {value : String} (shown : EndsShown value) :
    EndsShown (c.apply value) := by
  cases c with
  | identity => exact shown
  | _ => exact EndsShown.append (by decide) _

section Blocks

theorem Field.lastShown_lines {field : Field} (shown : EndsShown field.hint.text) :
    LastShown field.lines :=
  (lastShown_singleton (shown.append _)).append _

theorem ClassBlock.lastShown_bodyLines {fields : List Field}
    (shown : ∀ field ∈ fields, EndsShown field.hint.text) : LastShown (bodyLines fields) := by
  cases fields with
  | nil => exact lastShown_singleton (by decide)
  | cons field rest =>
    refine (lastShown_flatMap (List.cons_ne_nil field rest) fun other among => ?_).map_indent
    exact Field.lastShown_lines (shown other among)

theorem ClassBlock.lastShown_accessors (name : String) (members : List Member) :
    LastShown (methodLines (accessors name members)) := by
  have last : LastShown (writerLines members) :=
    ((lastShown_singleton (by decide)).append _).map_indent.append ["def to_dict(self) -> dict:"]
  rw [accessors, methodLines, List.flatMap_cons, List.flatMap_singleton]
  exact (last.map_indent.append [""]).append _

/-- Names of types stand last only in a module of types alone, where classes have no methods. -/
theorem Plan.endsShown_soundClassBlock {plan : Plan} (names : plan.graph.NamesShown)
    (declared : TypeId → Bool) (id : TypeId) (c : ClassType) :
    EndsShown (Block.classBlock (plan.soundClassBlock declared id c)).text := by
  have fields : ∀ field ∈ plan.soundFields declared id c, EndsShown field.hint.text :=
    List.forall_mem_map.mpr fun entry _ => names.propertyHintTree declared entry.2
  refine LastShown.unlines ?_
  rw [Block.lines, lines_soundClassBlock, soundMethods]
  cases plan.options.justTypes with
  | true =>
    rw [if_pos rfl, methodLines_nil, List.append_nil, soundHead]
    exact ((lastShown_bodyLines fields).append _).append _
  | false =>
    rw [if_neg Bool.false_ne_true, methodLines, List.flatMap_append]
    exact ((lastShown_accessors c.name _).append _).append _

theorem Block.endsShown_enumBlock (block : EnumBlock) : EndsShown (Block.enumBlock block).text := by
  have caseLines : LastShown (if block.cases.isEmpty then ["pass"]
      else block.cases.map EnumBlock.caseLine) := by
    split
    · exact lastShown_singleton (by decide)
    · next some =>
      refine lastShown_of_forall (mt (fun none => ?_) some) (List.forall_mem_map.mpr ?_)
      · rw [List.map_eq_nil_iff.mp none, List.isEmpty_nil]
      · exact fun entry _ => (endsShown_literal entry.2).append _
  refine LastShown.unlines ?_
  rw [Block.lines, EnumBlock.lines]
  exact caseLines.map_indent.append _

theorem EntryPoint.endsShown_helpers (entry : EntryPoint) :
    ∀ helper ∈ entry.helpers, EndsShown helper := by
  have argument : EndsShown readerArgument ∧ EndsShown writerArgument := by decide
  have reader : LastShown entry.readerLines :=
    ⟨[_], _, rfl, ((entry.decoder.endsShown_apply argument.1).append "return ").indent⟩
  have writer : LastShown entry.writerLines :=
    ⟨[_], _, rfl, ((entry.encoder.endsShown_apply argument.2).append "return ").indent⟩
  exact List.forall_mem_cons.mpr ⟨reader.unlines, List.forall_mem_singleton.mpr writer.unlines⟩

end Blocks

section Chunks

theorem Imports.endsShown_text {imports : Imports} (known : imports.AllKnown)
    (some : imports.isEmpty = false) : EndsShown imports.text := by
  have symbols : ∀ i ∈ Import.known, EndsShown i.symbol := by decide
  have line : ∀ line ∈ imports.lines, EndsShown line := by
    rw [lines_eq]
    refine List.forall_mem_map.mpr fun group among => (LastShown.intercalate ?_ ", ").append _
    refine lastShown_of_forall (symbols_ne_nil among) fun symbol listed => ?_
    exact symbols _ (known _ (mem_groups.mp ⟨group, among, rfl, listed⟩))
  refine (lastShown_of_forall ?_ line).unlines
  rw [isEmpty_eq, List.isEmpty_eq_false_iff] at some
  rw [lines_eq]
  exact mt List.map_eq_nil_iff.mp some

theorem Combinator.endsShown_body (c : Combinator) : EndsShown c.body := by
  have last : LastShown c.lines := by
    cases c <;> exact lastShown_of_getLast? rfl (by decide +kernel)
  exact last.intercalate "\n"

namespace Draft

variable {draft : Draft}

theorem endsShown_typeVariableLines (draft : Draft) :
    ∀ line ∈ draft.typeVariableLines, EndsShown line := by
  have declaration : ∀ v : TypeVariable, EndsShown v.declaration := by
    intro v
    cases v <;> decide
  exact List.forall_mem_map.mpr fun v _ => declaration v

theorem endsShown_chunks (known : draft.allImports.AllKnown)
    (blocks : ∀ block ∈ draft.blocks, EndsShown block.text) :
    ∀ chunk ∈ draft.chunks, EndsShown chunk := by
  unfold chunks
  simp only [List.forall_mem_append, List.forall_mem_map]
  refine ⟨⟨⟨⟨?_, ?_⟩, fun c _ => c.endsShown_body⟩, blocks⟩, ?_⟩
  · split
    · exact List.forall_mem_nil _
    · next some =>
      exact List.forall_mem_singleton.mpr
        (Imports.endsShown_text known (Bool.eq_false_iff.mpr some))
  · split
    · exact List.forall_mem_nil _
    · next some =>
      refine List.forall_mem_singleton.mpr (LastShown.unlines ?_)
      exact lastShown_of_forall (fun none => some (List.isEmpty_iff.mpr none))
        draft.endsShown_typeVariableLines
  · intro helper among
    obtain ⟨entry, _, inside⟩ := List.mem_flatMap.mp among
    exact entry.endsShown_helpers helper inside

theorem endsShown_header (draft : Draft) (options : Options) :
    ∀ line ∈ draft.header options, EndsShown line := by
  unfold header
  split
  · split
    · refine List.forall_mem_append.mpr ⟨by decide, List.forall_mem_map.mpr fun entry _ => ?_⟩
      exact EndsShown.append (by decide) _
    · exact List.forall_mem_nil _
  · intro line among
    obtain ⟨comment, _, inside⟩ := List.mem_flatMap.mp among
    exact endsShown_of_mem_commentLines inside

/-- The text that a module should have but for the line feed at its end: the comment that comes
first, a blank line if there is anything behind it, and the parts, two blank lines between them. -/
def body (draft : Draft) (options : Options) : String :=
  unlines (draft.header options) ++
    (if draft.header options = [] ∨ draft.chunks = [] then "" else "\n\n") ++
    "\n\n\n".intercalate draft.chunks

/-- Before its end is settled, a module has line feeds to spare if it is a comment alone. -/
theorem rawText_eq (draft : Draft) (options : Options) :
    draft.rawText options = draft.body options ++
      (if draft.header options ≠ [] ∧ draft.chunks = [] then "\n\n" else "") := by
  unfold rawText body
  by_cases header : draft.header options = [] <;> by_cases chunks : draft.chunks = []
  · simp [header, chunks, unlines]
  · simp [header, chunks, unlines]
  · simp [header, chunks]
  · simp [header, chunks]

theorem body_eq_or_endsShown (options : Options)
    (chunks : ∀ chunk ∈ draft.chunks, EndsShown chunk) :
    draft.body options = "" ∨ EndsShown (draft.body options) := by
  unfold body
  by_cases last : draft.chunks = []
  · by_cases first : draft.header options = []
    · left
      rw [if_pos (.inl first), first, last]
      rfl
    · right
      rw [if_pos (.inr last), last, String.intercalate_nil, String.append_empty,
        String.append_empty]
      exact (lastShown_of_forall first (draft.endsShown_header options)).unlines
  · exact .inr (((lastShown_of_forall last chunks).intercalate _).append _)

theorem trimEnd_rawText (options : Options) (chunks : ∀ chunk ∈ draft.chunks, EndsShown chunk) :
    trimEnd (draft.rawText options).toList = (draft.body options).toList := by
  have blanks : ∀ c ∈ (if draft.header options ≠ [] ∧ draft.chunks = [] then "\n\n"
      else "").toList, Character.isWhitespace c = true := by
    refine List.all_eq_true.mp ?_
    split <;> decide
  rw [rawText_eq, String.toList_append, trimEnd_append_of_blank blanks]
  rcases body_eq_or_endsShown options chunks with none | shown
  · rw [none]
    rfl
  · exact trimEnd_of_endsShown shown

/-- Whatever stands in a module, it does not end in a blank line. -/
theorem not_suffix_text (draft : Draft) (options : Options) :
    ¬ ['\n', '\n'] <:+ (draft.text options).toList := by
  rintro ⟨front, ends⟩
  rw [text, String.toList_ofList, ← List.singleton_append, ← List.append_assoc] at ends
  have last := List.append_cancel_right ends
  have left : trimEnd (draft.rawText options).toList ≠ [] := by
    rw [← last]
    exact List.append_ne_nil_of_right_ne_nil _ (List.cons_ne_nil _ _)
  obtain ⟨_, c, whole, shows⟩ := exists_last_dropEnd left
  rw [← trimEnd, ← last] at whole
  obtain ⟨-, same⟩ := List.append_inj' whole rfl
  cases same
  exact absurd shows (by decide)

end Draft

end Chunks

/-- The name that an attempt added helpers for. -/
def Attempt.enters? : Attempt → Option String
  | (.entryPoint name _, .ok _) => some name
  | _ => none

namespace Plan

variable {plan : Plan}

theorem Step.endsShown_blocks (names : plan.graph.NamesShown) {draft next : Draft}
    {request : Request} {outcome : Except Fault Unit}
    (step : plan.Step draft request outcome next)
    (h : ∀ block ∈ draft.blocks, EndsShown block.text) :
    ∀ block ∈ next.blocks, EndsShown block.text := by
  cases step with
  | unknown | undeclarable | again | passedOver => exact h
  | brokenClass | brokenEntryPoint | soundEntryPoint => exact h
  | soundClass =>
    refine List.forall_mem_append.mpr ⟨h, List.forall_mem_singleton.mpr ?_⟩
    exact endsShown_soundClassBlock names _ _ _
  | enum =>
    refine List.forall_mem_append.mpr ⟨h, List.forall_mem_singleton.mpr ?_⟩
    exact Block.endsShown_enumBlock _

theorem endsShown_blocks (names : plan.graph.NamesShown) (requests : List Request) :
    ∀ block ∈ (plan.draftOf requests).blocks, EndsShown block.text :=
  @run_induction plan (fun _ draft => ∀ block ∈ draft.blocks, EndsShown block.text)
    (fun _ _ _ _ _ h step => step.endsShown_blocks names h) requests [] .empty
    (List.forall_mem_nil _)

/-- The functions of the helpers, in the order of the calls that added them. -/
def functions (plan : Plan) (past : List Attempt) : List String :=
  if plan.options.justTypes then []
  else (past.filterMap Attempt.enters?).map (makeName · .property)

theorem functions_concat (plan : Plan) (past : List Attempt) (attempt : Attempt) :
    plan.functions (past ++ [attempt]) = plan.functions past ++ plan.functions [attempt] := by
  unfold functions
  split
  · rfl
  · rw [List.filterMap_append, List.map_append]

theorem Step.functions {past : List Attempt} {draft next : Draft} {request : Request}
    {outcome : Except Fault Unit} (step : plan.Step draft request outcome next)
    (h : draft.entryPoints.map (·.function) = plan.functions past) :
    next.entryPoints.map (·.function) = plan.functions (past ++ [(request, outcome)]) := by
  rw [functions_concat, ← h]
  unfold Plan.functions
  cases step with
  | unknown | undeclarable | again | brokenClass | enum | brokenEntryPoint =>
    simp [Attempt.enters?, withBrokenClass, withFieldImports, begun, withEnum, withHintImports]
  | soundClass => simp [Attempt.enters?, withClass, withBodyNeeds_entryPoints, begun]
  | passedOver types => simp [types]
  | soundEntryPoint types =>
    simp [types, Attempt.enters?, withEntryPoint, withHintImports, Plan.soundEntryPoint]

theorem functions_of_run (plan : Plan) (requests : List Request) :
    (plan.draftOf requests).entryPoints.map (·.function) =
      plan.functions (plan.history requests) := by
  have start : Draft.empty.entryPoints.map (·.function) = plan.functions [] :=
    (ite_self []).symm
  exact @run_induction plan
    (fun past draft => draft.entryPoints.map (·.function) = plan.functions past)
    (fun _ _ _ _ _ h step => step.functions h) requests [] .empty start

/-- Whatever requests succeeded or failed, a module is its comment and its parts and nothing else:
first the lines of the comment, then a blank line if there are parts too, then the imports, the
support section, the declarations in the order in which they were made and the two helpers of every
entry point in the order of the calls, two blank lines between them, and one line feed at the end.
Trimming the end takes nothing from a line or a part, and just the two line feeds behind a comment
that stands alone. -/
theorem assembly_loses_nothing (names : plan.graph.NamesShown) (requests : List Request) :
    let draft := plan.draftOf requests
    let header := draft.header plan.options
    draft.text plan.options =
      unlines header ++ (if header = [] ∨ draft.chunks = [] then "" else "\n\n") ++
        "\n\n\n".intercalate draft.chunks ++ "\n" ∧
    draft.chunks =
      (if draft.allImports.added = [] then [] else [unlines draft.allImports.lines]) ++
        (if draft.typeVariableLines = [] then [] else [unlines draft.typeVariableLines]) ++
        draft.combinators.toList.map Combinator.body ++
        draft.blocks.map (fun block => unlines block.lines) ++
        draft.entryPoints.flatMap (fun entry => [
          "def " ++ entry.function ++ "_from_dict(s: Any) -> " ++ entry.hint.text ++
            ":\n    return " ++ entry.decoder.apply "s",
          "def " ++ entry.function ++ "_to_dict(x: " ++ entry.hint.text ++
            ") -> Any:\n    return " ++ entry.encoder.apply "x"]) ∧
    draft.HoldsSupport ∧
    draft.blocks.map Block.id = declarations (plan.history requests) ∧
    draft.entryPoints.map (·.function) = plan.functions (plan.history requests) ∧
    draft.rawText plan.options =
      String.ofList (trimEnd (draft.rawText plan.options).toList) ++
        (if header ≠ [] ∧ draft.chunks = [] then "\n\n" else "") ∧
    (∀ part ∈ header ++ draft.chunks, EndsShown part) ∧
    ¬ ['\n', '\n'] <:+ (draft.text plan.options).toList := by
  intro draft header
  have chunks : ∀ chunk ∈ draft.chunks, EndsShown chunk :=
    Draft.endsShown_chunks (plan.allKnown requests) (endsShown_blocks names requests)
  have trimmed := Draft.trimEnd_rawText plan.options chunks
  refine ⟨?_, ?_, (plan.supported requests).holdsSupport, (plan.ledger requests).blocks,
    plan.functions_of_run requests, ?_,
    List.forall_mem_append.mpr ⟨draft.endsShown_header plan.options, chunks⟩,
    draft.not_suffix_text plan.options⟩
  · rw [Draft.text, trimmed, String.ofList_append, String.ofList_toList]
    rfl
  · simp only [Draft.chunks, Imports.isEmpty, List.isEmpty_iff, ← EntryPoint.helpers_eq]
    rfl
  · rw [trimmed, String.ofList_toList]
    exact draft.rawText_eq plan.options

/-- Types alone, the last of which ends in the name of the other, under a comment that ends in white
space. -/
def albums : Plan where
  graph := ⟨#[.enumType ⟨"Genre", .ofList [("ROCK", "rock \n")]⟩,
    .classType ⟨"Album", .ofList [("genre", ⟨"genre", ⟨0⟩, false⟩)]⟩,
    .array ⟨3⟩, .primitive .string]⟩
  descriptions := .none
  options := { justTypes := true, leadingComments := ["Albums. \t"] }

def titledAlbums : Plan :=
  { albums with options := { leadingComments := ["Albums. \t"] } }

theorem albums_assembled :
    albums.graph.NamesShown ∧
      (albums.draftOf [.declare ⟨0⟩, .declare ⟨0⟩, .declare ⟨1⟩]).text albums.options =
        "# Albums.\n\nfrom enum import Enum\n\n\n" ++
          "class Genre(Enum):\n    ROCK = \"rock \\n\"\n\n\nclass Album:\n    genre: Genre\n" ∧
      (albums.draftOf []).text albums.options = "# Albums.\n" ∧
      (albums.draftOf []).rawText albums.options =
        String.ofList (trimEnd ((albums.draftOf []).rawText albums.options).toList) ++ "\n\n" ∧
      (titledAlbums.draftOf [.entryPoint "all titles" ⟨2⟩, .declare ⟨0⟩]).text
          titledAlbums.options =
        "# Albums.\n\n" ++
          "from typing import List, Any, Callable, TypeVar\nfrom enum import Enum\n\n\n" ++
          "T = TypeVar(\"T\")\n\n\n" ++
          "def from_str(x: Any) -> str:\n    assert isinstance(x, str)\n    return x\n\n\n" ++
          "def from_list(f: Callable[[Any], T], x: Any) -> List[T]:\n" ++
          "    assert isinstance(x, list)\n    return [f(y) for y in x]\n\n\n" ++
          "class Genre(Enum):\n    ROCK = \"rock \\n\"\n\n\n" ++
          "def all_titles_from_dict(s: Any) -> List[str]:\n" ++
          "    return from_list(from_str, s)\n\n\n" ++
          "def all_titles_to_dict(x: List[str]) -> Any:\n" ++
          "    return from_list(from_str, x)\n" ∧
      (titledAlbums.draftOf [.entryPoint "all titles" ⟨2⟩, .declare ⟨0⟩]).entryPoints.map
        (·.function) = ["all_titles"] := by
  have names : albums.graph.NamesShown := Graph.NamesPlain.namesShown (by decide +kernel)
  obtain ⟨text, -⟩ :=
    assembly_loses_nothing names [.declare ⟨0⟩, .declare ⟨0⟩, .declare ⟨1⟩]
  obtain ⟨comment, -, -, -, -, trimmed, -⟩ := assembly_loses_nothing names []
  obtain ⟨whole, -, -, -, functions, -⟩ := @assembly_loses_nothing titledAlbums names
    [.entryPoint "all titles" ⟨2⟩, .declare ⟨0⟩]
  exact ⟨names, text.trans (by decide +kernel), comment.trans (by decide +kernel), trimmed,
    whole.trans (by decide +kernel), functions.trans (by decide +kernel)⟩

end Plan

end JsonBinding
