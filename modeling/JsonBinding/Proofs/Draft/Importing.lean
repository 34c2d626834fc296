import JsonBinding.Proofs.Draft.Growth
import JsonBinding.Proofs.Draft.Run
import JsonBinding.Proofs.Import.Grouping
import JsonBinding.Proofs.Source.Word
/-!
The imports of a module against what it refers to. Whatever the parts and the support functions of a
module refer to is imported, also after requests that failed; where all requests succeeded, nothing
else is (`imports_of_run`). The import statements name every import once, under its source.
-/
namespace JsonBinding

open Source Text

namespace Draft

theorem mem_supportImports {draft : Draft} {i : Import} :
    i ∈ draft.supportImports ↔ ∃ c ∈ draft.combinators.toList,
      i ∈ c.imports ∨ ∃ v : TypeVariable, v.name ∈ words c.body ∧ i ∈ v.imports := by
  unfold supportImports
  rw [List.mem_flatMap]
  refine exists_congr fun c => and_congr_right fun _ => ?_
  rw [List.mem_append]
  simp only [← Combinator.typeVariable?_eq_some_iff]
  cases c.typeVariable? <;> simp

end Draft

section Known

mutual

theorem TypeHint.imports_known : ∀ hint : TypeHint, ∀ i ∈ hint.imports, i ∈ Import.known
  | any | datetime => by decide
  | none | bool | int | float | str | reference _ _ _ => List.forall_mem_nil _
  | list item => List.forall_mem_cons.mpr ⟨by decide, item.imports_known⟩
  | dict value => List.forall_mem_cons.mpr ⟨by decide, value.imports_known⟩
  | optional inner => List.forall_mem_cons.mpr ⟨by decide, inner.imports_known⟩
  | union members => List.forall_mem_cons.mpr ⟨by decide, TypeHint.memberImports_known members⟩

theorem TypeHint.memberImports_known :
    ∀ members, ∀ i ∈ TypeHint.memberImports members, i ∈ Import.known
  | [] => List.forall_mem_nil _
  | member :: rest =>
    List.forall_mem_append.mpr ⟨member.imports_known, TypeHint.memberImports_known rest⟩

end

theorem Block.imports_known (options : Options) (block : Block) :
    ∀ i ∈ block.imports options, i ∈ Import.known := by
  cases block with
  | enumBlock block => exact List.forall_mem_singleton.mpr (by decide)
  | classBlock block =>
    refine List.forall_mem_append.mpr ⟨List.forall_mem_append.mpr ⟨?_, ?_⟩, ?_⟩
    · split <;> decide
    · intro i among
      obtain ⟨field, _, refers⟩ := List.mem_flatMap.mp among
      exact field.hint.imports_known i refers
    · split <;> decide

theorem EntryPoint.imports_known (entry : EntryPoint) : ∀ i ∈ entry.imports, i ∈ Import.known :=
  List.forall_mem_append.mpr
    ⟨entry.hint.imports_known, List.forall_mem_singleton.mpr (by decide)⟩

theorem Parts.imports_known (options : Options) (parts : Parts) :
    ∀ i ∈ parts.imports options, i ∈ Import.known := by
  refine List.forall_mem_append.mpr ⟨fun i among => ?_, fun i among => ?_⟩
  · obtain ⟨block, _, refers⟩ := List.mem_flatMap.mp among
    exact block.imports_known options i refers
  · obtain ⟨entry, _, refers⟩ := List.mem_flatMap.mp among
    exact entry.imports_known i refers

theorem Draft.supportImports_known (draft : Draft) :
    ∀ i ∈ draft.supportImports, i ∈ Import.known := by
  intro i among
  obtain ⟨c, _, refers | ⟨v, _, refers⟩⟩ := Draft.mem_supportImports.mp among
  · exact c.imports_known i refers
  · exact v.imports_known i refers

/-- Every import is one that a module may need. -/
def Imports.AllKnown (imports : Imports) : Prop :=
  ∀ i ∈ imports.added, i ∈ Import.known

theorem Imports.AllKnown.insert {imports : Imports} (h : imports.AllKnown) {i : Import}
    (known : i ∈ Import.known) : (imports.insert i).AllKnown := by
  intro j among
  rcases (mem_added_insert imports i j).mp among with before | rfl
  · exact h j before
  · exact known

theorem Imports.AllKnown.insertAll {imports : Imports} (h : imports.AllKnown) {more : List Import}
    (known : ∀ i ∈ more, i ∈ Import.known) : (imports.insertAll more).AllKnown :=
  fun j among => ((mem_added_insertAll imports more j).mp among).elim (h j) (known j)

end Known

section Recording

/-- What a computation records has a property, also if it ends in a fault. -/
def Recorded.RecordsOnly {ω α : Type} (P : ω → Prop) (x : Recorded ω α) : Prop :=
  ∀ entry ∈ x.record, P entry

namespace Recorded

variable {ω α β : Type} {P : ω → Prop}

theorem recordsOnly_pure (value : α) : RecordsOnly P (pure value) :=
  List.forall_mem_nil _

theorem recordsOnly_fail (fault : Fault) : RecordsOnly P (fail fault : Recorded ω α) :=
  List.forall_mem_nil _

theorem recordsOnly_note {entry : ω} (holds : P entry) : RecordsOnly P (note entry) :=
  List.forall_mem_singleton.mpr holds

theorem RecordsOnly.bind {x : Recorded ω α} {f : α → Recorded ω β} (first : x.RecordsOnly P)
    (later : ∀ value, (f value).RecordsOnly P) : (x >>= f).RecordsOnly P := by
  unfold RecordsOnly
  rw [record_bind]
  cases x.outcome with
  | error fault => exact first
  | ok value => exact List.forall_mem_append.mpr ⟨first, later value⟩

theorem recordsOnly_mapM {f : α → Recorded ω β} {entries : List α}
    (each : ∀ entry ∈ entries, (f entry).RecordsOnly P) : (entries.mapM f).RecordsOnly P := by
  induction entries with
  | nil => exact recordsOnly_pure []
  | cons entry rest ih =>
    obtain ⟨first, others⟩ := List.forall_mem_cons.mp each
    rw [List.mapM_cons]
    exact first.bind fun _ => (ih others).bind fun _ => recordsOnly_pure _

end Recorded

open Recorded

theorem Primitive.recordsOnly_hint (p : Primitive) : p.hint.RecordsOnly (· ∈ Import.known) := by
  unfold RecordsOnly
  cases p <;> decide

theorem Inline.recordsOnly_hint (declared : TypeId → Bool) (t : Inline) (l : Location) :
    (t.hint declared l).RecordsOnly (· ∈ Import.known) := by
  induction t using Inline.induction generalizing l with
  | primitive p => exact p.recordsOnly_hint
  | array items ih | map items ih | nullable items ih =>
    exact (recordsOnly_note (by decide)).bind fun _ => (ih _).bind fun _ => recordsOnly_pure _
  | classRef id name => exact recordsOnly_pure _
  | enumRef id name => exact recordsOnly_pure _
  | formatted f =>
    cases f with
    | dateTime => exact (recordsOnly_note (by decide)).bind fun _ => recordsOnly_pure _
    | date | time | uuid | uri | integerString | boolString => exact recordsOnly_fail _
  | single only ih => exact ih _
  | union members ih =>
    refine (recordsOnly_note (by decide)).bind fun _ =>
      RecordsOnly.bind ?_ fun _ => recordsOnly_pure _
    rw [hintMembers_eq_mapM]
    refine recordsOnly_mapM fun (member, i) among => ih member ?_ _
    exact List.fst_mem_of_mem_zipIdx among
  | emptyUnion => exact recordsOnly_fail _
  | missing id => exact recordsOnly_fail _
  | endless id => exact recordsOnly_fail _

theorem Graph.recordsOnly_hint (g : Graph) (declared : TypeId → Bool) (id : TypeId)
    (l : Location) : (g.hint declared id l).RecordsOnly (· ∈ Import.known) :=
  (g.inline id).recordsOnly_hint declared l

theorem Plan.recordsOnly_fields (plan : Plan) (declared : TypeId → Bool) (id : TypeId)
    (c : ClassType) : (plan.fields declared id c).RecordsOnly (· ∈ Import.known) := by
  refine recordsOnly_mapM fun (name, property) _ => RecordsOnly.bind ?_ fun _ => recordsOnly_pure _
  have plain := plan.graph.recordsOnly_hint declared property.type (propertyLocation c name)
  unfold Graph.propertyHint
  split
  · exact (recordsOnly_note (by decide)).bind fun _ => plain.bind fun _ => recordsOnly_pure _
  · exact plain

end Recording

namespace Plan

variable {plan : Plan} {draft next : Draft}

/-- What the parts of a draft refer to is imported, and nothing else if every request succeeded. -/
structure ImportsParts (plan : Plan) (past : List Attempt) (draft : Draft) : Prop where
  complete : ∀ i ∈ draft.parts.imports plan.options, i ∈ draft.imports.added
  minimal : AllSucceed past → ∀ i ∈ draft.imports.added, i ∈ draft.parts.imports plan.options

theorem ImportsParts.step {past : List Attempt} {request : Request} {outcome : Except Fault Unit}
    (h : plan.ImportsParts past draft) (step : plan.Step draft request outcome next) :
    plan.ImportsParts (past ++ [(request, outcome)]) next := by
  rcases step.adds_or_keeps with ⟨rfl, added, adds⟩ | ⟨fails, keeps⟩
  · constructor
    · intro i refers
      rw [adds.parts, Parts.mem_imports_append] at refers
      exact (adds.imports i).mpr (refers.imp_left (h.complete i))
    · intro succeed i registered
      rw [adds.parts, Parts.mem_imports_append]
      exact ((adds.imports i).mp registered).imp_left
        (h.minimal (allSucceed_append.mp succeed).1 i)
  · constructor
    · intro i refers
      rw [keeps.parts] at refers
      exact keeps.imports i (h.complete i refers)
    · intro succeed
      exact absurd ((allSucceed_append.mp succeed).2 _ (List.mem_singleton_self _)) fails

theorem Step.allKnown {request : Request} {outcome : Except Fault Unit}
    (step : plan.Step draft request outcome next) (h : draft.imports.AllKnown) :
    next.imports.AllKnown := by
  have begun : ∀ id, (plan.begun draft id).imports.AllKnown := by
    intro id
    refine h.insertAll ?_
    split <;> decide
  have fields : ∀ id c, (plan.withFieldImports (plan.begun draft id) id c).imports.AllKnown :=
    fun id c => (begun id).insertAll (plan.recordsOnly_fields _ id c)
  have hint : ∀ name id, (plan.withHintImports draft name id).imports.AllKnown :=
    fun _ id => h.insertAll (plan.graph.recordsOnly_hint _ id _)
  cases step with
  | unknown | undeclarable | again | passedOver => exact h
  | brokenClass => exact fields _ _
  | soundClass =>
    unfold withClass withBodyNeeds
    split
    · exact fields _ _
    · exact (fields _ _).insert (by decide)
  | enum => exact h.insert (by decide)
  | brokenEntryPoint => exact hint _ _
  | soundEntryPoint => exact (hint _ _).insert (by decide)

theorem allKnown (plan : Plan) (requests : List Request) :
    (plan.draftOf requests).allImports.AllKnown := by
  have registered : (plan.draftOf requests).imports.AllKnown :=
    @run_induction plan (fun _ draft => draft.imports.AllKnown)
      (fun _ _ _ _ _ h step => step.allKnown h) requests [] .empty (List.forall_mem_nil _)
  exact registered.insertAll (Draft.supportImports_known _)

end Plan

end JsonBinding
