import JsonBinding.Fault
/-!
How far the declarations of a module have come. A type is unseen, then in declaration while its body
is written, then declared; a reference to it needs no quotes from then on.
-/
namespace JsonBinding

inductive DeclState
  | unseen
  | inDeclaration
  | declared
  deriving DecidableEq, Repr

def DeclState.name : DeclState → String
  | unseen => "Unseen"
  | inDeclaration => "InDeclaration"
  | declared => "Declared"

/-- The states of all types whose body was begun. -/
structure Progress where
  states : OrderedMap TypeId DeclState
  deriving DecidableEq, Repr

namespace Progress

def empty : Progress :=
  ⟨.empty⟩

def state (p : Progress) (id : TypeId) : DeclState :=
  (p.states.find? id).getD .unseen

def isDeclared (p : Progress) (id : TypeId) : Bool :=
  p.state id == .declared

def started (p : Progress) : Nat :=
  p.states.size

def set (p : Progress) (id : TypeId) (state : DeclState) : Progress :=
  ⟨p.states.insert id state⟩

/-- Begins the body of a type, which happens at most once. -/
def start (p : Progress) (id : TypeId) (name : String) : Except Fault Progress :=
  if p.state id = .unseen then .ok (p.set id .inDeclaration) else .error (.alreadyDeclared name)

/-- Completes the body of a type. -/
def finish (p : Progress) (id : TypeId) : Progress :=
  p.set id .declared

@[simp] theorem state_empty (id : TypeId) : empty.state id = .unseen := rfl

theorem state_set (p : Progress) (id other : TypeId) (state : DeclState) :
    (p.set id state).state other = if other = id then state else p.state other := by
  by_cases h : other = id
  · subst h
    simp [set, Progress.state]
  · simp [set, Progress.state, OrderedMap.find?_insert_of_ne _ _ h, h]

end Progress

end JsonBinding
