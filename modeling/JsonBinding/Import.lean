/-!
The names that a module imports. Imports are collected one by one while a module is written, and
written at its head as one line per source, sources and names each in the order of their first use.
-/
namespace JsonBinding

structure Import where
  source : String
  symbol : String
  deriving DecidableEq, Repr

namespace Import

def text (i : Import) : String :=
  i.source ++ "." ++ i.symbol

def any : Import := ⟨"typing", "Any"⟩
def list : Import := ⟨"typing", "List"⟩
def dict : Import := ⟨"typing", "Dict"⟩
def optional : Import := ⟨"typing", "Optional"⟩
def union : Import := ⟨"typing", "Union"⟩
def callable : Import := ⟨"typing", "Callable"⟩
def typeVariable : Import := ⟨"typing", "TypeVar"⟩
def type : Import := ⟨"typing", "Type"⟩
def cast : Import := ⟨"typing", "cast"⟩
def datetime : Import := ⟨"datetime", "datetime"⟩
def enum : Import := ⟨"enum", "Enum"⟩
def dataclass : Import := ⟨"dataclasses", "dataclass"⟩

/-- Everything that the written modules themselves may import. -/
def known : List Import :=
  [any, list, dict, optional, union, callable, typeVariable, type, cast, datetime, enum, dataclass]

end Import

/-- The imports of a module, each once, in the order in which they were added. -/
structure Imports where
  added : List Import
  nodup : added.Nodup := by simp
  deriving DecidableEq, Repr

namespace Imports

def empty : Imports where
  added := []

instance : Inhabited Imports := ⟨empty⟩

def contains (imports : Imports) (i : Import) : Bool :=
  imports.added.contains i

def insert (imports : Imports) (i : Import) : Imports :=
  if h : i ∈ imports.added then imports
  else
    { added := imports.added ++ [i]
      nodup := by
        rw [List.nodup_append]
        refine ⟨imports.nodup, by simp, ?_⟩
        intro a ha b hb e
        rw [List.mem_singleton] at hb
        exact h (hb ▸ e ▸ ha) }

def add (imports : Imports) (i : Import) : Imports × Bool :=
  (imports.insert i, !imports.contains i)

def insertAll (imports : Imports) (more : List Import) : Imports :=
  more.foldl insert imports

def size (imports : Imports) : Nat :=
  imports.added.length

def isEmpty (imports : Imports) : Bool :=
  imports.added.isEmpty

/-- The sources in the order of their first import. -/
def sources (imports : Imports) : List String :=
  (imports.added.map (·.source)).eraseDups

/-- The imports from one source, in order. -/
def fromSource (imports : Imports) (source : String) : List Import :=
  imports.added.filter (·.source = source)

/-- All imports, those from one source together. -/
def toList (imports : Imports) : List Import :=
  imports.sources.flatMap imports.fromSource

def line (source : String) (symbols : List String) : String :=
  "from " ++ source ++ " import " ++ ", ".intercalate symbols

def lines (imports : Imports) : List String :=
  imports.sources.map fun source => line source ((imports.fromSource source).map (·.symbol))

def text (imports : Imports) : String :=
  "\n".intercalate imports.lines

@[simp] theorem mem_added_insert (imports : Imports) (i j : Import) :
    j ∈ (imports.insert i).added ↔ j ∈ imports.added ∨ j = i := by
  unfold insert
  split
  · next h =>
    constructor
    · exact Or.inl
    · rintro (hj | rfl)
      · exact hj
      · exact h
  · simp

theorem mem_added_insertAll (imports : Imports) (more : List Import) (j : Import) :
    j ∈ (imports.insertAll more).added ↔ j ∈ imports.added ∨ j ∈ more := by
  induction more generalizing imports with
  | nil => simp [insertAll]
  | cons i rest ih =>
    have step := ih (imports.insert i)
    simp only [insertAll, List.foldl_cons] at step ⊢
    rw [step, mem_added_insert, List.mem_cons, or_assoc]

end Imports

end JsonBinding
