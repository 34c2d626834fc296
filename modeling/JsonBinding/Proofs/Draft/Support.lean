import JsonBinding.Proofs.Draft.Failure
import JsonBinding.Proofs.Draft.Growth
import JsonBinding.Proofs.Draft.Ledger
import JsonBinding.Proofs.Import.Grouping
import JsonBinding.Proofs.Source.Word
/-!
The support section of a module: the support functions that it holds and the type variables that
these name. Whatever is requested, and whether or not the requests succeed, a module holds the
support functions that its converters call and no others (`support_of_run`). The invariant is
`Draft.Supported`: parts and support functions are only ever added together. No other part of a
module can be taken for one of the section (`Draft.StandsApart`): declarations and imports start
with other characters, and no support function has the arguments of a helper.
-/
namespace JsonBinding

open Source Text

namespace CombinatorSet

theorem nodup_toList (used : CombinatorSet) : used.toList.Nodup :=
  List.Nodup.sublist List.filter_sublist (by decide)

theorem mem_typeVariables {used : CombinatorSet} {v : TypeVariable} :
    v ∈ used.typeVariables ↔ ∃ c ∈ used.toList, v.name ∈ words c.body := by
  simp only [typeVariables, List.mem_filter, v.mem_all, true_and, List.any_eq_true,
    decide_eq_true_eq, Combinator.typeVariable?_eq_some_iff]

end CombinatorSet

namespace Draft

/-- The support section that calls make necessary: the type variables that the functions name in
their text, as one part, and then the functions. -/
def supportSection (calls : List Combinator) : List String :=
  let used := Combinator.all.filter (· ∈ calls)
  let named := TypeVariable.all.filter fun v => ∃ c ∈ used, v.name ∈ words c.body
  (if named = [] then [] else [unlines (named.map TypeVariable.declaration)]) ++
    used.map Combinator.body

/-- A part of a module that is no support function and does not declare a type variable first. -/
structure StandsApart (chunk : String) : Prop where
  noBody : ∀ c : Combinator, chunk ≠ c.body
  noDeclaration : ∀ v : TypeVariable, ¬ v.declaration.toList <+: chunk.toList

/-- The support functions of a draft are those that its parts call. -/
def Supported (draft : Draft) : Prop :=
  ∀ c, draft.combinators.contains c = true ↔ c ∈ draft.parts.calls

/-- The support section of a draft is what its parts call: every support function once, in the fixed
order, and before them the type variables that they name. -/
structure HoldsSupport (draft : Draft) : Prop where
  combinators : ∀ c, c ∈ draft.combinators.toList ↔ c ∈ draft.parts.calls
  ordered : draft.combinators.toList.Sublist Combinator.all
  once : draft.combinators.toList.Nodup
  typeVariables : ∀ v, v ∈ draft.combinators.typeVariables ↔
    ∃ c ∈ draft.parts.calls, v.name ∈ words c.body
  typeVariablesOrdered : draft.combinators.typeVariables.Sublist TypeVariable.all
  chunks : ∃ before after, draft.chunks = before ++ supportSection draft.parts.calls ++ after ∧
    ∀ chunk ∈ before ++ after, StandsApart chunk

section Apart

theorem head?_append_of {front : String} {first : Char}
    (starts : front.toList.head? = some first) (rest : String) :
    (front ++ rest).toList.head? = some first := by
  rw [String.toList_append, List.head?_append, starts, Option.some_or]

theorem head?_unlines_of {line : String} {first : Char}
    (starts : line.toList.head? = some first) (lines : List String) :
    (unlines (line :: lines)).toList.head? = some first := by
  rw [unlines_append_cons]
  exact head?_append_of starts _

theorem not_declaration_prefix {chunk : String} {first : Char}
    (starts : chunk.toList.head? = some first) (other : first ∉ ['T', 'E']) (v : TypeVariable) :
    ¬ v.declaration.toList <+: chunk.toList := by
  rintro ⟨rest, whole⟩
  have declared : v.declaration.toList.head? = some 'T' ∨ v.declaration.toList.head? = some 'E' := by
    cases v with
    | value => exact .inl (by decide +kernel)
    | enumeration => exact .inr (by decide +kernel)
  have same : v.declaration.toList.head?.or rest.head? = some first := by
    rw [← List.head?_append, whole, starts]
  rcases declared with letter | letter
  · rw [letter, Option.some_or] at same
    cases same
    exact other (by decide)
  · rw [letter, Option.some_or] at same
    cases same
    exact other (by decide)

theorem standsApart_of_head? (first : Char) {chunk : String}
    (starts : chunk.toList.head? = some first) (other : first ∉ ['d', 'T', 'E']) :
    StandsApart chunk where
  noBody := by
    rintro c rfl
    have support : c.body.toList.head? = some 'd' := by
      rw [c.toList_body]
      cases c <;> decide +kernel
    cases starts.symm.trans support
    exact other (by decide)
  noDeclaration := not_declaration_prefix starts (mt (List.mem_cons_of_mem _) other)

theorem standsApart_imports {imports : Imports} (some : imports.isEmpty = false) :
    StandsApart imports.text := by
  rw [Imports.isEmpty_eq, List.isEmpty_eq_false_iff] at some
  obtain ⟨group, rest, groups⟩ := List.exists_cons_of_ne_nil some
  have starts : (Imports.line group.1 group.2).toList.head? = Option.some 'f' :=
    head?_append_of (head?_append_of (head?_append_of (by decide) _) _) _
  refine standsApart_of_head? 'f' ?_ (by decide)
  rw [Imports.text, Imports.lines_eq, groups, List.map_cons]
  exact head?_unlines_of starts _

theorem standsApart_block (block : Block) : StandsApart block.text := by
  have header : ∀ rest : String, ("class " ++ rest).toList.head? = some 'c' :=
    head?_append_of (by decide)
  cases block with
  | classBlock block =>
    cases decorated : block.isDataclass with
    | true =>
      refine standsApart_of_head? '@' ?_ (by decide)
      simp only [Block.text, Block.lines, ClassBlock.lines, ClassBlock.headLines, decorated,
        if_true, List.cons_append]
      exact head?_unlines_of (by decide) _
    | false =>
      refine standsApart_of_head? 'c' ?_ (by decide)
      simp only [Block.text, Block.lines, ClassBlock.lines, ClassBlock.headLines, decorated,
        Bool.false_eq_true, if_false, List.nil_append, List.cons_append, String.append_assoc]
      exact head?_unlines_of (header _) _
  | enumBlock block =>
    refine standsApart_of_head? 'c' ?_ (by decide)
    simp only [Block.text, Block.lines, EnumBlock.lines, List.cons_append, String.append_assoc]
    exact head?_unlines_of (header _) _

/-- A helper has an argument list that no support function has. -/
theorem standsApart_helper {entry : EntryPoint} {helper : String}
    (among : helper ∈ entry.helpers) : StandsApart helper := by
  have within : ∀ front part rest : String,
      part.toList <:+: (front ++ part ++ rest).toList := by
    intro front part rest
    rw [String.toList_append, String.toList_append]
    exact List.infix_append _ _ _
  have starts : ∀ rest : String, ("def " ++ rest).toList.head? = some 'd' :=
    head?_append_of (by decide)
  rw [entry.helpers_eq] at among
  simp only [List.mem_cons, List.not_mem_nil, or_false, String.append_assoc] at among
  rcases among with rfl | rfl
  · refine ⟨fun c same => c.not_readerHead_infix_body ?_,
      not_declaration_prefix (starts _) (by decide)⟩
    rw [← same, ← String.append_assoc, ← String.append_assoc]
    exact within _ _ _
  · refine ⟨fun c same => c.not_writerHead_infix_body ?_,
      not_declaration_prefix (starts _) (by decide)⟩
    rw [← same, ← String.append_assoc, ← String.append_assoc]
    exact within _ _ _

end Apart

theorem Supported.toList_eq {draft : Draft} (h : draft.Supported) :
    draft.combinators.toList = Combinator.all.filter (· ∈ draft.parts.calls) := by
  refine List.filter_congr fun c _ => ?_
  rw [Bool.eq_iff_iff, h c, decide_eq_true_iff]

theorem Supported.typeVariables_eq {draft : Draft} (h : draft.Supported) :
    draft.combinators.typeVariables = TypeVariable.all.filter fun v =>
      ∃ c ∈ Combinator.all.filter (· ∈ draft.parts.calls), v.name ∈ words c.body := by
  unfold CombinatorSet.typeVariables
  rw [h.toList_eq]
  refine List.filter_congr fun v _ => ?_
  rw [Bool.eq_iff_iff]
  simp only [List.any_eq_true, decide_eq_true_iff, Combinator.typeVariable?_eq_some_iff]

theorem Supported.chunks_eq {draft : Draft} (h : draft.Supported) :
    draft.chunks =
      (if draft.allImports.isEmpty then [] else [draft.allImports.text]) ++
        supportSection draft.parts.calls ++
        (draft.blocks.map Block.text ++ draft.entryPoints.flatMap EntryPoint.helpers) := by
  simp only [chunks, supportSection, typeVariableLines, h.typeVariables_eq, h.toList_eq,
    List.isEmpty_iff, List.map_eq_nil_iff, List.append_assoc]

theorem standsApart_around (draft : Draft) :
    ∀ chunk ∈ (if draft.allImports.isEmpty then [] else [draft.allImports.text]) ++
      (draft.blocks.map Block.text ++ draft.entryPoints.flatMap EntryPoint.helpers),
      StandsApart chunk := by
  simp only [List.forall_mem_append, List.forall_mem_map]
  refine ⟨?_, fun block _ => standsApart_block block, fun helper among => ?_⟩
  · split
    · exact List.forall_mem_nil _
    · next some =>
      exact List.forall_mem_singleton.mpr (standsApart_imports (Bool.eq_false_iff.mpr some))
  · obtain ⟨entry, _, inside⟩ := List.mem_flatMap.mp among
    exact standsApart_helper inside

theorem Supported.holdsSupport {draft : Draft} (h : draft.Supported) : draft.HoldsSupport where
  combinators c := (draft.combinators.mem_toList c).trans (h c)
  ordered := List.filter_sublist
  once := draft.combinators.nodup_toList
  typeVariables v := by
    simp only [CombinatorSet.mem_typeVariables, CombinatorSet.mem_toList, h _]
  typeVariablesOrdered := List.filter_sublist
  chunks := ⟨_, _, h.chunks_eq, draft.standsApart_around⟩

end Draft

namespace Plan

variable {plan : Plan} {draft next : Draft}

theorem Adds.supported {added : Parts} (adds : plan.Adds draft next added) (h : draft.Supported) :
    next.Supported := by
  intro c
  rw [adds.combinators, adds.parts, Parts.mem_calls_append, h c]

theorem Keeps.supported (keeps : Keeps draft next) (h : draft.Supported) : next.Supported := by
  intro c
  rw [keeps.combinators, keeps.parts]
  exact h c

theorem Step.supported {request : Request} {outcome : Except Fault Unit}
    (step : plan.Step draft request outcome next) (h : draft.Supported) : next.Supported := by
  rcases step.adds_or_keeps with ⟨_, added, adds⟩ | ⟨_, keeps⟩
  · exact adds.supported h
  · exact keeps.supported h

theorem supported (plan : Plan) (requests : List Request) : (plan.draftOf requests).Supported := by
  have start : Draft.empty.Supported := by
    intro c
    simp [Draft.empty, Draft.parts, Parts.calls, Parts.converters, CombinatorSet.empty]
  exact @run_induction plan (fun _ draft => draft.Supported) (fun _ _ _ _ _ h step =>
    step.supported h) requests [] .empty start

end Plan

end JsonBinding
