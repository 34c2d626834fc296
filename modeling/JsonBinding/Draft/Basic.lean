import JsonBinding.Draft.Block
import JsonBinding.Progress
/-!
A module in the making, and the steps that change it. A step that ends in a fault keeps what it
changed before. The main statements say what each kind of step does to a draft, and that a fault
ends a sequence of steps (`on_bind`).
-/
namespace JsonBinding

structure Draft where
  progress : Progress
  imports : Imports
  combinators : CombinatorSet
  blocks : List Block
  entryPoints : List EntryPoint

def Draft.empty : Draft where
  progress := .empty
  imports := .empty
  combinators := .empty
  blocks := []
  entryPoints := []

/-- A step that changes a draft and may end in a fault; what it changed before stays changed. -/
abbrev Writing (α : Type) := ExceptT Fault (StateM Draft) α

namespace Writing

variable {α : Type}

def on (step : Writing α) (draft : Draft) : Except Fault α × Draft :=
  step.run.run draft

@[simp] theorem on_pure (value : α) (draft : Draft) :
    (pure value : Writing α).on draft = (.ok value, draft) := rfl

@[simp] theorem on_throw (fault : Fault) (draft : Draft) :
    (throw fault : Writing α).on draft = (.error fault, draft) := rfl

/-- A fault ends the whole; otherwise the second step goes on where the first one ended. -/
theorem on_bind {β : Type} (step : Writing α) (next : α → Writing β) (draft : Draft) :
    (step >>= next).on draft =
      match step.on draft with
      | (.ok value, changed) => (next value).on changed
      | (.error fault, changed) => (.error fault, changed) := by
  change (ExceptT.bindCont next (step.on draft).1) (step.on draft).2 = _
  obtain ⟨outcome, changed⟩ := step.on draft
  cases outcome <;> rfl

/-- Takes over the imports that a computation recorded, then its outcome. -/
def importing (x : Recorded Import α) : Writing α :=
  ExceptT.mk fun draft => (x.outcome, { draft with imports := draft.imports.insertAll x.record })

def combining (x : Recorded Combinator α) : Writing α :=
  ExceptT.mk fun draft =>
    (x.outcome, { draft with combinators := draft.combinators.insertAll x.record })

def start (id : TypeId) (name : String) : Writing Unit :=
  ExceptT.mk fun draft =>
    match draft.progress.start id name with
    | .ok progress => (.ok (), { draft with progress })
    | .error fault => (.error fault, draft)

def complete (block : Block) : Writing Unit :=
  ExceptT.mk fun draft =>
    (.ok (),
      { draft with progress := draft.progress.finish block.id, blocks := draft.blocks ++ [block] })

def enter (entry : EntryPoint) : Writing Unit :=
  ExceptT.mk fun draft => (.ok (), { draft with entryPoints := draft.entryPoints ++ [entry] })

def declared : Writing (TypeId → Bool) :=
  ExceptT.mk fun draft => (.ok draft.progress.isDeclared, draft)

@[simp] theorem on_importing (x : Recorded Import α) (draft : Draft) :
    (importing x).on draft =
      (x.outcome, { draft with imports := draft.imports.insertAll x.record }) := rfl

@[simp] theorem on_combining (x : Recorded Combinator α) (draft : Draft) :
    (combining x).on draft =
      (x.outcome, { draft with combinators := draft.combinators.insertAll x.record }) := rfl

@[simp] theorem on_complete (block : Block) (draft : Draft) :
    (complete block).on draft =
      (.ok (), { draft with
        progress := draft.progress.finish block.id, blocks := draft.blocks ++ [block] }) := rfl

@[simp] theorem on_enter (entry : EntryPoint) (draft : Draft) :
    (enter entry).on draft =
      (.ok (), { draft with entryPoints := draft.entryPoints ++ [entry] }) := rfl

@[simp] theorem on_declared (draft : Draft) :
    declared.on draft = (.ok draft.progress.isDeclared, draft) := rfl

theorem on_start (id : TypeId) (name : String) (draft : Draft) :
    (start id name).on draft =
      if draft.progress.state id = .unseen then
        (.ok (), { draft with progress := draft.progress.set id .inDeclaration })
      else (.error (.alreadyDeclared name), draft) := by
  change (match draft.progress.start id name with
    | .ok progress => (Except.ok (), { draft with progress := progress })
    | .error fault => (.error fault, draft)) = _
  by_cases h : draft.progress.state id = .unseen <;> simp [Progress.start, h]

end Writing

end JsonBinding
