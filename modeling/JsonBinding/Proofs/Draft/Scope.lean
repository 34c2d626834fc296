import JsonBinding.Draft.Block
import Mathlib.Data.List.Basic
/-!
Which variables are bound around the names of types in a converter. A converter is written as an
expression: calls of support functions and of types, lists, and functions without a name, each of
which binds its variable around what it does. The expression of a converter has the text of the
converter (`text_applied`), mentions the types whose names stand in the converter
(`types_applied`), and binds nothing around them but the variables of such functions
(`scopes_of_mem_mentions`).
-/
namespace JsonBinding

/-- A part of a module that binds variables around the expressions in it. -/
inductive Scope
  /-- A function without a name. -/
  | lambda
  /-- The method of a class that reads it from JSON. -/
  | readerMethod
  /-- The method of a class that writes it to JSON. -/
  | writerMethod
  /-- The helper of an entry point that reads it from JSON. -/
  | readerHelper
  /-- The helper of an entry point that writes it to JSON. -/
  | writerHelper
  deriving DecidableEq, Repr

/-- The variables that a module binds there of its own. The method that reads a class also assigns
to the fields, whose names come with the class. -/
def Scope.variables : Scope → List String
  | lambda => [Converter.argument]
  | readerMethod => ["obj"]
  | writerMethod => ["self", "result"]
  | readerHelper => [EntryPoint.readerArgument]
  | writerHelper => [EntryPoint.writerArgument]

/-- The name of a type at a place in an expression, with the scopes around it, inner ones first. -/
structure Mention where
  type : String
  scopes : List Scope
  deriving DecidableEq, Repr

/-- One of the scopes binds a variable of that name, which is then what the name stands for. -/
def Mention.Captured (m : Mention) : Prop :=
  ∃ scope ∈ m.scopes, m.type ∈ scope.variables

instance (m : Mention) : Decidable m.Captured :=
  inferInstanceAs (Decidable (∃ scope ∈ m.scopes, m.type ∈ scope.variables))

inductive Expression
  /-- An expression in which no type is mentioned. -/
  | value (text : String)
  | support (c : Combinator)
  | typeName (name : String)
  /-- The reader that comes with a class. -/
  | reader (name : String)
  | call (function : Expression) (arguments : List Expression)
  | list (items : List Expression)
  /-- A function without a name, by what it does to its variable. -/
  | lambda (body : Expression)

namespace Expression

@[elab_as_elim]
theorem induction {motive : Expression → Prop} (value : ∀ text, motive (.value text))
    (support : ∀ c, motive (.support c)) (typeName : ∀ name, motive (.typeName name))
    (reader : ∀ name, motive (.reader name))
    (call : ∀ function arguments, motive function → (∀ argument ∈ arguments, motive argument) →
      motive (.call function arguments))
    (list : ∀ items, (∀ item ∈ items, motive item) → motive (.list items))
    (lambda : ∀ body, motive body → motive (.lambda body)) (e : Expression) : motive e :=
  @Expression.rec motive (fun items => ∀ item ∈ items, motive item) value support typeName reader
    call list lambda (fun _ h => absurd h List.not_mem_nil)
    (fun _ _ first rest _ h => (List.mem_cons.mp h).elim (fun same => same ▸ first) (rest _)) e

mutual

def text : Expression → String
  | value text => text
  | support c => c.name
  | typeName name => name
  | reader name => name ++ ".from_dict"
  | call function arguments => function.text ++ "(" ++ ", ".intercalate (texts arguments) ++ ")"
  | list items => "[" ++ ", ".intercalate (texts items) ++ "]"
  | lambda body => "lambda " ++ Converter.argument ++ ": " ++ body.text

def texts : List Expression → List String
  | [] => []
  | first :: rest => first.text :: texts rest

end

mutual

def mentions (around : List Scope) : Expression → List Mention
  | value _ | support _ => []
  | typeName name | reader name => [⟨name, around⟩]
  | call function arguments => function.mentions around ++ mentionsAll around arguments
  | list items => mentionsAll around items
  | lambda body => body.mentions (.lambda :: around)

def mentionsAll (around : List Scope) : List Expression → List Mention
  | [] => []
  | first :: rest => first.mentions around ++ mentionsAll around rest

end

theorem texts_eq_map (items : List Expression) : texts items = items.map text := by
  induction items with
  | nil => rfl
  | cons first rest ih => rw [texts, ih, List.map_cons]

theorem text_reader (name : String) : (reader name).text = name ++ ".from_dict" :=
  rfl

theorem text_list (items : List Expression) :
    (list items).text = "[" ++ ", ".intercalate (texts items) ++ "]" :=
  rfl

theorem text_call_singleton (function argument : Expression) :
    (call function [argument]).text = function.text ++ "(" ++ argument.text ++ ")" := by
  rw [text, texts_eq_map, List.map_singleton, String.intercalate_singleton]

theorem text_call_pair (function first second : Expression) :
    (call function [first, second]).text =
      function.text ++ "(" ++ first.text ++ ", " ++ second.text ++ ")" := by
  rw [text, texts_eq_map, List.map_cons, List.map_singleton, String.intercalate_cons_cons,
    String.intercalate_singleton]
  simp only [String.append_assoc]

theorem mentionsAll_eq_flatMap (around : List Scope) (items : List Expression) :
    mentionsAll around items = items.flatMap (mentions around) := by
  induction items with
  | nil => rfl
  | cons first rest ih => rw [mentionsAll, ih, List.flatMap_cons]

/-- Around a mention are the functions without a name that it stands in, and then all that is around
the expression. -/
theorem scopes_of_mem_mentions {e : Expression} {around : List Scope} {m : Mention}
    (among : m ∈ e.mentions around) :
    ∃ depth, m.scopes = List.replicate depth .lambda ++ around := by
  induction e using Expression.induction generalizing around with
  | value text | support c => cases among
  | typeName name | reader name =>
    obtain rfl := List.mem_singleton.mp among
    exact ⟨0, rfl⟩
  | call function arguments ih each =>
    rcases List.mem_append.mp among with inside | inside
    · exact ih inside
    · rw [mentionsAll_eq_flatMap] at inside
      obtain ⟨argument, listed, own⟩ := List.mem_flatMap.mp inside
      exact each argument listed own
  | list items each =>
    rw [mentions, mentionsAll_eq_flatMap] at among
    obtain ⟨item, listed, own⟩ := List.mem_flatMap.mp among
    exact each item listed own
  | lambda body ih =>
    obtain ⟨depth, scopes⟩ := ih among
    refine ⟨depth + 1, ?_⟩
    rw [scopes, List.replicate_succ', List.append_assoc, List.singleton_append]

def types (e : Expression) (around : List Scope) : List String :=
  (e.mentions around).map (·.type)

theorem types_call (function : Expression) (arguments : List Expression) (around : List Scope) :
    (call function arguments).types around =
      function.types around ++ arguments.flatMap (·.types around) := by
  rw [types, mentions, List.map_append, mentionsAll_eq_flatMap, List.map_flatMap]
  rfl

theorem types_list (items : List Expression) (around : List Scope) :
    (list items).types around = items.flatMap (·.types around) := by
  rw [types, mentions, mentionsAll_eq_flatMap, List.map_flatMap]
  rfl

end Expression

namespace Converter

@[elab_as_elim]
theorem induction {motive : Converter → Prop} (identity : motive .identity)
    (function : ∀ c, motive (.function c))
    (nested : ∀ c inner, motive inner → motive (.nested c inner))
    (union : ∀ members, (∀ member ∈ members, motive member) → motive (.union members))
    (classFromDict : ∀ name, motive (.classFromDict name))
    (enumValue : ∀ name, motive (.enumValue name))
    (typed : ∀ c name, motive (.typed c name)) (c : Converter) : motive c :=
  @Converter.rec motive (fun members => ∀ member ∈ members, motive member) identity function nested
    union classFromDict enumValue typed (fun _ h => absurd h List.not_mem_nil)
    (fun _ _ first rest _ h => (List.mem_cons.mp h).elim (fun same => same ▸ first) (rest _)) c

/-- A converter as a function of one argument, given its expression for the variable. -/
def functionFrom (applied : Expression) : Converter → Expression
  | function c => .support c
  | classFromDict name => .reader name
  | enumValue name => .typeName name
  | identity | nested _ _ | union _ | typed _ _ => .lambda applied

mutual

def applied (value : Expression) : Converter → Expression
  | identity => value
  | function c => .call (.support c) [value]
  | nested c inner =>
    .call (.support c) [functionFrom (inner.applied (.value argument)) inner, value]
  | union members => .call (.support .fromUnion) [.list (functions members), value]
  | classFromDict name => .call (.reader name) [value]
  | enumValue name => .call (.typeName name) [value]
  | typed c name => .call (.support c) [.typeName name, value]

def functions : List Converter → List Expression
  | [] => []
  | member :: rest => functionFrom (member.applied (.value argument)) member :: functions rest

end

def asFunction (c : Converter) : Expression :=
  c.functionFrom (c.applied (.value argument))

theorem functions_eq_map (members : List Converter) :
    functions members = members.map asFunction := by
  induction members with
  | nil => rfl
  | cons member rest ih => rw [functions, ih, List.map_cons, asFunction]

theorem text_functionFrom {applied : Expression} {text : String} (same : applied.text = text)
    (c : Converter) : (c.functionFrom applied).text = c.callableFrom text := by
  subst same
  cases c <;> rfl

theorem texts_functions {members : List Converter}
    (each : ∀ member ∈ members, ∀ value, (member.applied value).text = member.apply value.text) :
    Expression.texts (functions members) = callables members := by
  rw [Expression.texts_eq_map, functions_eq_map, callables_eq_map, List.map_map]
  exact List.map_congr_left fun member among =>
    member.text_functionFrom (each member among (.value argument))

theorem text_applied (c : Converter) (value : Expression) :
    (c.applied value).text = c.apply value.text := by
  induction c using Converter.induction generalizing value with
  | identity => rfl
  | function c => exact Expression.text_call_singleton _ value
  | nested c inner ih =>
    have function := inner.text_functionFrom (ih (.value argument))
    rw [applied, Expression.text_call_pair, function]
    rfl
  | union members ih =>
    have opening (rest : String) : "(" ++ ("[" ++ rest) = "([" ++ rest := by
      rw [← String.append_assoc]
      rfl
    have closing (rest : String) : "]" ++ (", " ++ rest) = "], " ++ rest := by
      rw [← String.append_assoc]
      rfl
    rw [applied, Expression.text_call_pair, Expression.text_list, texts_functions ih, apply]
    simp only [String.append_assoc, opening, closing]
    rfl
  | classFromDict name =>
    have opening : ".from_dict" ++ "(" = ".from_dict(" := by decide
    rw [applied, Expression.text_call_singleton, Expression.text_reader, apply, ← opening]
    simp only [String.append_assoc]
  | enumValue name => exact Expression.text_call_singleton _ value
  | typed c name => exact Expression.text_call_pair _ _ value

mutual

def names : Converter → List String
  | identity | function _ => []
  | nested _ inner => inner.names
  | union members => memberNames members
  | classFromDict name | enumValue name | typed _ name => [name]

def memberNames : List Converter → List String
  | [] => []
  | member :: rest => member.names ++ memberNames rest

end

theorem memberNames_eq_flatMap (members : List Converter) :
    memberNames members = members.flatMap names := by
  induction members with
  | nil => rfl
  | cons member rest ih => rw [memberNames, ih, List.flatMap_cons]

theorem types_functionFrom {c : Converter} {body : Expression}
    (types : ∀ around, body.types around = c.names) (around : List Scope) :
    (c.functionFrom body).types around = c.names := by
  cases c with
  | function _ | classFromDict _ | enumValue _ => rfl
  | identity | nested _ _ | union _ | typed _ _ => exact types _

theorem types_applied (c : Converter) (value : String) (around : List Scope) :
    (c.applied (.value value)).types around = c.names := by
  induction c using Converter.induction generalizing value around with
  | identity | function _ | classFromDict _ | enumValue _ | typed _ _ => rfl
  | nested c inner ih =>
    have function := types_functionFrom (ih argument) around
    rw [applied, Expression.types_call]
    exact function ▸ List.append_nil _
  | union members ih =>
    have listed : (functions members).flatMap (·.types around) = members.flatMap names := by
      rw [functions_eq_map, List.flatMap_map]
      exact List.flatMap_congr fun member among =>
        types_functionFrom (ih member among argument) around
    rw [← Expression.types_list] at listed
    rw [applied, Expression.types_call, names, memberNames_eq_flatMap]
    exact listed ▸ List.append_nil _

end Converter

end JsonBinding
