import JsonBinding.Proofs.Draft.ClassLines
import JsonBinding.Proofs.Draft.Parallel
/-!
What the options of a plan decide about its declarations. Whether a class has methods, and whether
it has a decorator or a constructor, are parts of it that stand apart; all its other lines, every
enum, and what becomes of the requests are the same for all options
(`options_decide_whole_parts`).
-/
namespace JsonBinding

open Source Text ClassBlock

/-- A declaration in a module of types alone beside the one that can be read and written. -/
inductive Block.GainsMethods (version : PythonVersion) : Block → Block → Prop
  | enumBlock (block : EnumBlock) : GainsMethods version (.enumBlock block) (.enumBlock block)
  /-- All methods come behind all that the class was. -/
  | classBlock {types full : ClassBlock} {members : List Member} :
      types.body = .fields (members.map (·.field)) → full.body = .members members →
      full.lines = types.lines ++ methodLines
        ((if version.usesDataclasses then [] else [constructorLines (members.map (·.field))]) ++
          accessors types.name members) →
      GainsMethods version (.classBlock types) (.classBlock full)

/-- A declaration beside the one for a version that has data classes. -/
inductive Block.GainsDecorator : Bool → Block → Block → Prop
  | enumBlock (justTypes : Bool) (block : EnumBlock) :
      GainsDecorator justTypes (.enumBlock block) (.enumBlock block)
  | typesAlone {plain data : ClassBlock} :
      data.lines = "@dataclass" :: plain.lines →
      GainsDecorator true (.classBlock plain) (.classBlock data)
  /-- The constructor goes; the methods that read and write the class stay. -/
  | withMethods {plain data : ClassBlock} {head : List String} {members : List Member} :
      plain.body = .members members → data.body = .members members →
      plain.lines = head ++ methodLines
        (constructorLines (members.map (·.field)) :: accessors plain.name members) →
      data.lines = "@dataclass" :: head ++ methodLines (accessors plain.name members) →
      GainsDecorator false (.classBlock plain) (.classBlock data)

theorem unlines_prefix_append {lines : List String} (nonempty : lines ≠ [])
    (more : List String) : (unlines lines).toList <+: (unlines (lines ++ more)).toList := by
  unfold unlines
  by_cases last : more = []
  · rw [last, List.append_nil]
  · rw [String.intercalate_append_of_ne_nil nonempty last, String.append_assoc,
      String.toList_append]
    exact List.prefix_append _ _

theorem ClassBlock.lines_ne_nil (block : ClassBlock) : block.lines ≠ [] := by
  rw [lines_eq]
  simp

theorem Block.GainsMethods.text_prefix {version : PythonVersion} {types full : Block}
    (gains : GainsMethods version types full) : types.text.toList <+: full.text.toList := by
  cases gains with
  | enumBlock block => exact List.prefix_rfl
  | @classBlock types full members fields methods lines =>
    change (unlines types.lines).toList <+: (unlines full.lines).toList
    rw [lines]
    exact unlines_prefix_append types.lines_ne_nil _

namespace Plan

variable {g : Graph} {d : Descriptions} {o o' : Options} {block block' : Block}

theorem Counterparts.gainsMethods {version : PythonVersion}
    (counterparts : Counterparts ⟨g, d, { o with version := version, justTypes := true }⟩
      ⟨g, d, { o' with version := version, justTypes := false }⟩ block block') :
    block.GainsMethods version block' := by
  cases counterparts with
  | enumBlock id e => exact .enumBlock _
  | classBlock declared id c =>
    have fields := (Plan.mk g d o).map_field_soundMembers declared id c
    refine .classBlock (congrArg ClassBody.fields fields.symm) rfl ?_
    rw [lines_soundClassBlock, lines_soundClassBlock, fields]
    simp only [soundMethods, if_true, Bool.false_eq_true, if_false, methodLines_nil,
      List.append_nil]
    rfl

theorem Counterparts.gainsDecorator {justTypes : Bool}
    (counterparts : Counterparts ⟨g, d, { o with version := .v36, justTypes := justTypes }⟩
      ⟨g, d, { o' with version := .v37, justTypes := justTypes }⟩ block block') :
    block.GainsDecorator justTypes block' := by
  cases counterparts with
  | enumBlock id e => exact .enumBlock justTypes _
  | classBlock declared id c =>
    cases justTypes with
    | true =>
      refine .typesAlone ?_
      rw [lines_soundClassBlock, lines_soundClassBlock]
      rfl
    | false =>
      have fields := (Plan.mk g d o).map_field_soundMembers declared id c
      refine @Block.GainsDecorator.withMethods _ _ ((Plan.mk g d o).soundHead declared id c)
        ((Plan.mk g d o).soundMembers declared id c) rfl rfl ?_ ?_
      · rw [lines_soundClassBlock, fields]
        rfl
      · rw [lines_soundClassBlock]
        rfl

theorem Counterparts.eq {version : PythonVersion} {justTypes : Bool}
    (counterparts : Counterparts ⟨g, d, { o with version := version, justTypes := justTypes }⟩
      ⟨g, d, { o' with version := version, justTypes := justTypes }⟩ block block') :
    block = block' := by
  cases counterparts <;> rfl

/-- Whatever the options are, declarations of the same types succeed and fail alike and leave the
same progress, after each of them since the list is any. A class gains its methods behind what it is
in a module of types alone, and for a version with data classes a decorator in the place of its
constructor; an enum is the same for all options. -/
theorem options_decide_whole_parts (g : Graph) (d : Descriptions) (ids : List TypeId)
    (o o' : Options) :
    let requests := ids.map Request.declare
    let blocks := fun options => ((Plan.mk g d options).draftOf requests).blocks
    (Plan.mk g d o').history requests = (Plan.mk g d o).history requests ∧
    ((Plan.mk g d o').draftOf requests).progress = ((Plan.mk g d o).draftOf requests).progress ∧
    (∀ version, List.Forall₂
      (fun types full => types.GainsMethods version full ∧ types.text.toList <+: full.text.toList)
      (blocks { o with version := version, justTypes := true })
      (blocks { o' with version := version, justTypes := false })) ∧
    (∀ justTypes, List.Forall₂ (Block.GainsDecorator justTypes)
      (blocks { o with version := .v36, justTypes := justTypes })
      (blocks { o' with version := .v37, justTypes := justTypes })) ∧
    ∀ version justTypes,
      blocks { o with version := version, justTypes := justTypes } =
        blocks { o' with version := version, justTypes := justTypes } := by
  intro requests blocks
  have parallel : ∀ o o' : Options,
      (Plan.mk g d o').history requests = (Plan.mk g d o).history requests ∧
        Parallel ⟨g, d, o⟩ ⟨g, d, o'⟩ ((Plan.mk g d o).draftOf requests)
          ((Plan.mk g d o').draftOf requests) := by
    intro o o'
    have graph : (Plan.mk g d o').graph = (Plan.mk g d o).graph := rfl
    refine runs_parallel graph (.inr fun request among => ?_)
    obtain ⟨id, _, rfl⟩ := List.mem_map.mp among
    exact ⟨id, rfl⟩
  obtain ⟨history, drafts⟩ := parallel o o'
  refine ⟨history, drafts.progress, fun version => ?_, fun justTypes => ?_,
    fun version justTypes => ?_⟩
  · refine (parallel _ _).2.blocks.imp fun types full counterparts => ?_
    have gains := counterparts.gainsMethods
    exact ⟨gains, gains.text_prefix⟩
  · exact (parallel _ _).2.blocks.imp fun plain data counterparts => counterparts.gainsDecorator
  · exact List.forall₂_eq_eq_eq ▸
      (parallel _ _).2.blocks.imp fun block block' counterparts => counterparts.eq

end Plan

end JsonBinding
