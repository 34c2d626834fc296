import JsonBinding.Proofs.Draft.ClassLines
import JsonBinding.Proofs.Draft.Parallel
import JsonBinding.Proofs.Source.Comment
/-!
What descriptions add to a module: the docstring of a type behind the header of its declaration, and
comments in front of the annotations of its properties. A comment cannot end before its line does,
and all other lines, what they need, and what becomes of the requests are the same for all
descriptions (`descriptions_only_insert`).
-/
namespace JsonBinding

open Source Text ClassBlock

def Field.hintLine (field : Field) : String :=
  indent (field.name ++ ": " ++ field.hint.text)

inductive Commented : List String → List String → Prop
  | nil : Commented [] []
  | line (line : String) {rest commented : List String} : Commented rest commented →
      Commented (line :: rest) (line :: commented)
  | comment {text line : String} {rest commented : List String} : IsComment text →
      Commented (line :: rest) commented →
      Commented (line :: rest) ((indentation ++ text) :: commented)

/-- A declaration without descriptions beside the one with the given descriptions. -/
inductive Block.Described (d : Descriptions) : Block → Block → Prop
  | enumBlock {bare described : EnumBlock} {rest : List String} :
      bare.lines = ("class " ++ bare.name ++ "(Enum):") :: rest →
      described.lines = ("class " ++ bare.name ++ "(Enum):") ::
        docstringLines (d.ofType bare.id) ++ rest →
      Described d (.enumBlock bare) (.enumBlock described)
  | classBlock {bare described : ClassBlock} {commented rest : List String} :
      Commented (bare.body.fieldList.map Field.hintLine) commented →
      bare.lines = decoratorLines bare.isDataclass ++ header bare.name ::
        bare.body.fieldList.map Field.hintLine ++ rest →
      described.lines = decoratorLines bare.isDataclass ++ header bare.name ::
        docstringLines (d.ofType bare.id) ++ commented ++ rest →
      Described d (.classBlock bare) (.classBlock described)

theorem Commented.comments {texts : List String} (comments : ∀ text ∈ texts, IsComment text)
    {line : String} {rest commented : List String} (behind : Commented (line :: rest) commented) :
    Commented (line :: rest) (texts.map indent ++ commented) := by
  induction texts with
  | nil => exact behind
  | cons text others ih =>
    obtain ⟨first, later⟩ := List.forall_mem_cons.mp comments
    rw [List.map_cons, List.cons_append, indent_of_isComment first]
    exact .comment first (ih later)

theorem commented_fields (fields : List Field) :
    Commented (fields.map Field.hintLine) ((fields.flatMap Field.lines).map indent) := by
  induction fields with
  | nil => exact .nil
  | cons field rest ih =>
    have comments : ∀ text ∈ (field.description.map commentLines).getD [], IsComment text := by
      cases field.description with
      | none => exact fun text none => absurd none List.not_mem_nil
      | some description => exact fun text among => isComment_of_mem among
    rw [List.flatMap_cons, Field.lines, List.append_assoc, List.map_append]
    exact Commented.comments comments (.line field.hintLine ih)

theorem map_indent_lines_of_bare {fields : List Field} (bare : ∀ f ∈ fields, f.description = none) :
    (fields.flatMap Field.lines).map indent = fields.map Field.hintLine := by
  induction fields with
  | nil => rfl
  | cons field rest ih =>
    obtain ⟨first, later⟩ := List.forall_mem_cons.mp bare
    rw [List.flatMap_cons, List.map_append, ih later, Field.lines, first]
    rfl

def passLines (fields : List Field) : List String :=
  if fields.isEmpty then [indent "pass"] else []

theorem bodyLines_eq (fields : List Field) :
    bodyLines fields = (fields.flatMap Field.lines).map indent ++ passLines fields := by
  cases fields with
  | nil => rfl
  | cons field rest => exact (List.append_nil _).symm

namespace Plan

variable {g : Graph} {o : Options}

theorem Counterparts.described {d : Descriptions} {block block' : Block}
    (counterparts : Counterparts ⟨g, .none, o⟩ ⟨g, d, o⟩ block block') :
    block.Described d block' := by
  cases counterparts with
  | enumBlock id e => exact .enumBlock rfl rfl
  | classBlock declared id c =>
    let plain := (Plan.mk g .none o).soundFields declared id c
    let told := (Plan.mk g d o).soundFields declared id c
    have list : ((Plan.mk g .none o).soundClassBlock declared id c).body.fieldList = plain :=
      fieldList_soundBody _ declared id c
    have untold : ∀ f ∈ plain, f.description = none := by
      intro f among
      obtain ⟨entry, _, rfl⟩ := List.mem_map.mp among
      rfl
    have hints : told.map Field.hintLine = plain.map Field.hintLine := by
      simp only [told, plain, soundFields, List.map_map]
      rfl
    have pass : passLines told = passLines plain := by
      simp only [told, plain, passLines, soundFields, List.isEmpty_map]
    have methods : (Plan.mk g d o).soundMethods declared id c =
        (Plan.mk g .none o).soundMethods declared id c :=
      soundMethods_of_descriptions g o .none d declared id c
    refine @Block.Described.classBlock d _ _ ((told.flatMap Field.lines).map indent)
      (passLines plain ++ methodLines ((Plan.mk g .none o).soundMethods declared id c)) ?_ ?_ ?_
    · rw [list, ← hints]
      exact commented_fields told
    · rw [list, lines_soundClassBlock, soundHead, bodyLines_eq, map_indent_lines_of_bare untold]
      simp only [List.append_assoc, List.cons_append]
      rfl
    · rw [lines_soundClassBlock, soundHead, bodyLines_eq, pass, methods]
      simp only [List.append_assoc, List.cons_append]
      rfl

end Plan

/-- Descriptions change nothing that is not a description. Whatever they are, requests have the same
outcomes and leave the same progress, imports, support functions and entry points, of which helpers
and usage lines are written; and each declaration is the one without descriptions but for its
docstring behind the header and comments in front of annotations. -/
theorem Plan.descriptions_only_insert (g : Graph) (o : Options) (d d' : Descriptions)
    (requests : List Request) :
    let draft := fun descriptions => (Plan.mk g descriptions o).draftOf requests
    (Plan.mk g d' o).history requests = (Plan.mk g d o).history requests ∧
    (draft d').progress = (draft d).progress ∧
    (draft d').imports = (draft d).imports ∧
    (draft d').combinators = (draft d).combinators ∧
    (draft d').entryPoints = (draft d).entryPoints ∧
    List.Forall₂ (Block.Described d) (draft .none).blocks (draft d).blocks := by
  intro draft
  have graph : ∀ d d' : Descriptions, (Plan.mk g d' o).graph = (Plan.mk g d o).graph :=
    fun _ _ => rfl
  obtain ⟨history, drafts⟩ := runs_parallel (graph d d') (.inl rfl)
  obtain ⟨-, fromNone⟩ := runs_parallel (graph .none d) (.inl rfl)
  refine ⟨history, drafts.progress, drafts.imports rfl, drafts.combinators rfl,
    drafts.entryPoints rfl, ?_⟩
  exact fromNone.blocks.imp fun bare described counterparts => counterparts.described

example :
    let pages : Graph := ⟨#[.classType ⟨"Page",
      .ofList [("next", ⟨"next", ⟨0⟩, true⟩), ("size", ⟨"size", ⟨1⟩, false⟩)]⟩,
      .primitive .integer]⟩
    let texts := (Descriptions.none.describeType ⟨0⟩ "A page.").describeProperty ⟨0⟩ "size"
      "In bytes.\r\nimport os"
    ((Plan.mk pages texts { justTypes := true }).draftOf [.declare ⟨0⟩]).blocks.map Block.lines =
      [["class Page:", "    \"\"\"A page.\"\"\"", "    next: Optional['Page']",
        "    # In bytes.", "    # import os", "    size: int"]] := by
  decide +kernel

end JsonBinding
