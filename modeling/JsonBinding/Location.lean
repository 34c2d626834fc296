import JsonBinding.Graph.Basic
/-!
Places in a graph, as messages name them: where the walk started and the steps taken from there.
-/
namespace JsonBinding

inductive Location.Root
  /-- Inside the declaration of a named type. -/
  | declared (name : String)
  /-- The request to declare a type. -/
  | declaration (id : TypeId)
  /-- The entry point of a given name. -/
  | entryPoint (name : String)
  deriving DecidableEq, Repr

/-- A step from a type to one that it points at. -/
inductive Location.Step
  | property (name : String)
  | item
  | value
  /-- To a member of a union, counted in the order in which the members are written. -/
  | member (index : Nat)
  deriving DecidableEq, Repr

structure Location where
  root : Location.Root
  steps : List Location.Step := []
  deriving DecidableEq, Repr

namespace Location

def Root.text : Root → String
  | declared name => name
  | declaration id => s!"declaration of {id.text}"
  | entryPoint name => "top-level `" ++ name ++ "`"

def Step.text : Step → String
  | property name => "." ++ name
  | item => "[]"
  | value => "\x7b\x7d"
  | member index => "|" ++ toString index

def step (l : Location) (s : Step) : Location :=
  { l with steps := l.steps ++ [s] }

def property (l : Location) (name : String) : Location :=
  l.step (.property name)

def item (l : Location) : Location :=
  l.step .item

def value (l : Location) : Location :=
  l.step .value

def member (l : Location) (index : Nat) : Location :=
  l.step (.member index)

def text (l : Location) : String :=
  l.steps.foldl (fun shown s => shown ++ s.text) l.root.text

theorem text_step (l : Location) (s : Step) : (l.step s).text = l.text ++ s.text := by
  simp [text, step]

end Location

end JsonBinding
