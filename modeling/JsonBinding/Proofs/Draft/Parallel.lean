import JsonBinding.Proofs.Draft.Run
/-!
Two runs over one graph. The plans may differ in descriptions and, if types are only declared, in
options. Neither decides what becomes of a request, so both runs make the same attempts and declare
the same types, each in its own way (`runs_parallel`). With the same options they also register and
add the same.
-/
namespace JsonBinding

namespace Recorded

variable {ω α β γ : Type}

theorem record_bind_pure (x : Recorded ω α) (wrap : α → β) :
    (x >>= fun a => pure (wrap a)).record = x.record := by
  rw [record_bind]
  cases x.outcome with
  | ok a => exact List.append_nil x.record
  | error fault => rfl

theorem record_mapM_bind_pure (f : α → Recorded ω β) (wrap : α → β → γ) (list : List α) :
    (list.mapM fun a => f a >>= fun b => pure (wrap a b)).record = (list.mapM f).record := by
  induction list with
  | nil => rfl
  | cons a rest ih =>
    simp only [List.mapM_cons, bind_assoc, pure_bind]
    rw [record_bind (f a), record_bind (f a)]
    cases (f a).outcome with
    | ok b => simp only [record_bind_pure, ih]
    | error fault => rfl

end Recorded

namespace Plan

variable {p q : Plan}

theorem bodyFault?_of_graph (graph : q.graph = p.graph) (c : ClassType) :
    q.bodyFault? c = p.bodyFault? c := by
  unfold bodyFault?
  rw [graph]

theorem converters_of_graph (graph : q.graph = p.graph) (d : Direction) (c : ClassType) :
    q.converters d c = p.converters d c := by
  unfold converters
  rw [graph]

theorem record_fields_of_graph (graph : q.graph = p.graph) (declared : TypeId → Bool)
    (id : TypeId) (c : ClassType) :
    (q.fields declared id c).record = (p.fields declared id c).record := by
  have hints : ∀ plan : Plan, (plan.fields declared id c).record =
      (c.properties.entries.mapM fun (name, property) =>
        plan.graph.propertyHint declared property (propertyLocation c name)).record :=
    fun plan => Recorded.record_mapM_bind_pure _ _ _
  rw [hints, hints, graph]

theorem soundEntryPoint_of_graph (graph : q.graph = p.graph) (declared : TypeId → Bool)
    (name : String) (id : TypeId) :
    q.soundEntryPoint declared name id = p.soundEntryPoint declared name id := by
  unfold soundEntryPoint
  rw [graph]

/-- The declarations of a type that two plans give rise to. -/
inductive Counterparts (p q : Plan) : Block → Block → Prop
  | classBlock (declared : TypeId → Bool) (id : TypeId) (c : ClassType) :
      Counterparts p q (.classBlock (p.soundClassBlock declared id c))
        (.classBlock (q.soundClassBlock declared id c))
  | enumBlock (id : TypeId) (e : EnumType) :
      Counterparts p q (.enumBlock (p.enumBlock id e)) (.enumBlock (q.enumBlock id e))

/-- Drafts that declare the same types; with the same options, the same drafts but for the
declarations. -/
structure Parallel (p q : Plan) (draft draft' : Draft) : Prop where
  progress : draft'.progress = draft.progress
  blocks : List.Forall₂ (Counterparts p q) draft.blocks draft'.blocks
  imports : q.options = p.options → draft'.imports = draft.imports
  combinators : q.options = p.options → draft'.combinators = draft.combinators
  entryPoints : q.options = p.options → draft'.entryPoints = draft.entryPoints

namespace Parallel

variable {draft draft' : Draft}

theorem empty (p q : Plan) : Parallel p q .empty .empty where
  progress := rfl
  blocks := .nil
  imports _ := rfl
  combinators _ := rfl
  entryPoints _ := rfl

theorem begun (parallel : Parallel p q draft draft') (id : TypeId) :
    Parallel p q (p.begun draft id) (q.begun draft' id) where
  progress := congrArg (·.set id .inDeclaration) parallel.progress
  blocks := parallel.blocks
  imports same := by
    simp only [Plan.begun, parallel.imports same, same]
  combinators := parallel.combinators
  entryPoints := parallel.entryPoints

theorem withFieldImports (graph : q.graph = p.graph) (parallel : Parallel p q draft draft')
    (id : TypeId) (c : ClassType) :
    Parallel p q (p.withFieldImports draft id c) (q.withFieldImports draft' id c) where
  progress := parallel.progress
  blocks := parallel.blocks
  imports same := by
    simp only [Plan.withFieldImports, parallel.imports same, parallel.progress,
      record_fields_of_graph graph]
  combinators := parallel.combinators
  entryPoints := parallel.entryPoints

theorem withClass (graph : q.graph = p.graph) (parallel : Parallel p q draft draft')
    (id : TypeId) (c : ClassType) :
    Parallel p q (p.withClass draft id c) (q.withClass draft' id c) := by
  have begun := parallel.begun id
  have fields := begun.withFieldImports graph id c
  refine ⟨?_, ?_, fun same => ?_, fun same => ?_, fun same => ?_⟩
  · exact congrArg (·.finish id) begun.progress
  · refine List.rel_append parallel.blocks (.cons ?_ .nil)
    rw [begun.progress]
    exact .classBlock _ id c
  · simp only [Plan.withClass, withBodyNeeds, same]
    split
    · exact fields.imports same
    · exact congrArg (·.insert .any) (fields.imports same)
  · simp only [Plan.withClass, withBodyNeeds, same]
    split
    · exact fields.combinators same
    · rw [fields.combinators same, converters_of_graph graph, converters_of_graph graph]
  · simp only [Plan.withClass, withBodyNeeds_entryPoints]
    exact begun.entryPoints same

theorem withEnum (parallel : Parallel p q draft draft') (id : TypeId) (e : EnumType) :
    Parallel p q (p.withEnum draft id e) (q.withEnum draft' id e) where
  progress := congrArg (fun progress => (progress.set id .inDeclaration).finish id)
    parallel.progress
  blocks := List.rel_append parallel.blocks (.cons (.enumBlock id e) .nil)
  imports same := congrArg (·.insert .enum) (parallel.imports same)
  combinators := parallel.combinators
  entryPoints := parallel.entryPoints

theorem withHintImports (graph : q.graph = p.graph) (parallel : Parallel p q draft draft')
    (name : String) (id : TypeId) :
    Parallel p q (p.withHintImports draft name id) (q.withHintImports draft' name id) where
  progress := parallel.progress
  blocks := parallel.blocks
  imports same := by
    simp only [Plan.withHintImports, parallel.imports same, parallel.progress, graph]
  combinators := parallel.combinators
  entryPoints := parallel.entryPoints

theorem withEntryPoint (graph : q.graph = p.graph) (parallel : Parallel p q draft draft')
    (name : String) (id : TypeId) :
    Parallel p q (p.withEntryPoint draft name id) (q.withEntryPoint draft' name id) where
  progress := parallel.progress
  blocks := parallel.blocks
  imports same :=
    congrArg (·.insert .any) ((parallel.withHintImports graph name id).imports same)
  combinators same := by
    simp only [Plan.withEntryPoint, parallel.combinators same, graph]
  entryPoints same := by
    simp only [Plan.withEntryPoint, parallel.entryPoints same, parallel.progress,
      soundEntryPoint_of_graph graph]

/-- A step is taken by both plans with the same outcome. Entry points are only for plans with the
same options, since a module of types alone passes them over. -/
theorem step (graph : q.graph = p.graph) (parallel : Parallel p q draft draft') {request : Request}
    (alike : q.options = p.options ∨ ∃ id, request = .declare id) {outcome : Except Fault Unit}
    {next : Draft} (step : p.Step draft request outcome next) :
    ∃ next', q.Step draft' request outcome next' ∧ Parallel p q next next' := by
  have notDeclared : ∀ {name id}, (q.options = p.options ∨
      ∃ id', Request.entryPoint name id = .declare id') → q.options = p.options :=
    fun alike => alike.resolve_right fun ⟨_, same⟩ => nomatch same
  have state : ∀ id, draft'.progress.state id = draft.progress.state id :=
    fun id => congrArg (·.state id) parallel.progress
  cases step with
  | unknown found => exact ⟨_, .unknown (graph ▸ found), parallel⟩
  | undeclarable found unnamed => exact ⟨_, .undeclarable (graph ▸ found) unnamed, parallel⟩
  | @again id _ _ found named started =>
    exact ⟨_, .again (graph ▸ found) named (state id ▸ started), parallel⟩
  | @brokenClass id c _ found unseen broken =>
    have broken' := (bodyFault?_of_graph graph c).trans broken
    exact ⟨_, .brokenClass (graph ▸ found) ((state id).trans unseen) broken',
      (parallel.begun id).withFieldImports graph id c⟩
  | @soundClass id c found unseen sound =>
    have sound' := (bodyFault?_of_graph graph c).trans sound
    exact ⟨_, .soundClass (graph ▸ found) ((state id).trans unseen) sound',
      parallel.withClass graph id c⟩
  | @enum id e found unseen =>
    exact ⟨_, .enum (graph ▸ found) ((state id).trans unseen), parallel.withEnum id e⟩
  | passedOver types =>
    exact ⟨_, .passedOver (notDeclared alike ▸ types), parallel⟩
  | @brokenEntryPoint name id _ types broken =>
    exact ⟨_, .brokenEntryPoint (notDeclared alike ▸ types) (graph ▸ broken),
      parallel.withHintImports graph name id⟩
  | @soundEntryPoint name id types sound =>
    exact ⟨_, .soundEntryPoint (notDeclared alike ▸ types) (graph ▸ sound),
      parallel.withEntryPoint graph name id⟩

end Parallel

theorem runs_parallel (graph : q.graph = p.graph) {requests : List Request}
    (alike : q.options = p.options ∨ ∀ request ∈ requests, ∃ id, request = .declare id) :
    q.history requests = p.history requests ∧
      Parallel p q (p.draftOf requests) (q.draftOf requests) :=
  run_rel requests
    (fun request among _ _ _ _ parallel step =>
      parallel.step graph (alike.imp_right fun declarations => declarations request among) step)
    (Parallel.empty p q)

end Plan

end JsonBinding
