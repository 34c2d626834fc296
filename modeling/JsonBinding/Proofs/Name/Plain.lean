import JsonBinding.Combinator
import JsonBinding.Graph.Basic
import JsonBinding.Name.Legal
import JsonBinding.Name.Reserved
/-!
Names as they stand in a written module. A word ends where no character of an identifier follows, so
a text that starts with a word can be cut behind it in one way only (`word_append_inj`). A plain
name is a word that a module does not give a meaning of its own; it can be told from the words that
a module writes by itself, which are reserved (`Lead.append_inj`).
-/
namespace JsonBinding

/-- A text of characters of identifiers. -/
def IsWord (text : List Char) : Prop :=
  ∀ c ∈ text, isIdentifierContinue c = true

instance (text : List Char) : Decidable (IsWord text) :=
  decidable_of_iff (text.all isIdentifierContinue = true) List.all_eq_true

/-- No word goes on here. -/
def Breaks (rest : List Char) : Prop :=
  ∀ c ∈ rest.head?, isIdentifierContinue c = false

theorem IsWord.not_mem {text : List Char} (word : IsWord text) {c : Char}
    (breaks : isIdentifierContinue c = false) : c ∉ text := by
  intro among
  rw [word c among] at breaks
  cases breaks

theorem word_append_inj {v w r s : List Char} (hv : IsWord v) (hw : IsWord w) (hr : Breaks r)
    (hs : Breaks s) (same : v ++ r = w ++ s) : v = w ∧ r = s := by
  induction v generalizing w with
  | nil =>
    cases w with
    | nil => exact ⟨rfl, same⟩
    | cons d w =>
      have breaks : isIdentifierContinue d = false := hr d (congrArg List.head? same)
      rw [hw d List.mem_cons_self] at breaks
      cases breaks
  | cons c v ih =>
    cases w with
    | nil =>
      have breaks : isIdentifierContinue c = false := hs c (congrArg List.head? same.symm)
      rw [hv c List.mem_cons_self] at breaks
      cases breaks
    | cons d w =>
      obtain ⟨rfl, later⟩ := List.cons.inj same
      obtain ⟨rfl, rest⟩ := ih (fun e among => hv e (List.mem_cons_of_mem _ among))
        (fun e among => hw e (List.mem_cons_of_mem _ among)) later
      exact ⟨rfl, rest⟩

/-- A name of characters of identifiers that is not reserved. -/
structure IsPlainName (name : String) : Prop where
  nonempty : name ≠ ""
  word : IsWord name.toList
  unreserved : isReserved name = false

theorem isPlainName_iff (name : String) :
    name ≠ "" ∧ name.toList.all isIdentifierContinue = true ∧ isReserved name = false ↔
      IsPlainName name := by
  rw [List.all_eq_true]
  exact ⟨fun ⟨nonempty, word, unreserved⟩ => ⟨nonempty, word, unreserved⟩,
    fun plain => ⟨plain.nonempty, plain.word, plain.unreserved⟩⟩

instance (name : String) : Decidable (IsPlainName name) :=
  decidable_of_iff _ (isPlainName_iff name)

/-- The classes and enums of a graph have plain names. -/
def Graph.NamesPlain (g : Graph) : Prop :=
  ∀ node ∈ g.nodes, ∀ name ∈ node.declaredName?, IsPlainName name

instance (g : Graph) : Decidable g.NamesPlain :=
  inferInstanceAs (Decidable (∀ node ∈ g.nodes, ∀ name ∈ node.declaredName?, IsPlainName name))

theorem Graph.NamesPlain.of_get? {g : Graph} (plain : g.NamesPlain) {id : TypeId} {node : Node}
    (found : g.get? id = some node) {name : String} (named : node.declaredName? = some name) :
    IsPlainName name :=
  plain node (Array.mem_of_getElem? found) name named

/-- What a converter that is written out starts with. -/
inductive Lead
  /-- The keyword of a function without a name. -/
  | lambda
  | support (c : Combinator)
  /-- The name of a type. -/
  | named (name : String)

namespace Lead

def text : Lead → String
  | lambda => "lambda"
  | support c => c.name
  | named name => name

def Plain : Lead → Prop
  | named name => IsPlainName name
  | lambda | support _ => True

theorem isReserved_name (c : Combinator) : isReserved c.name = true := by
  cases c <;> decide

theorem name_injective {c d : Combinator} (same : c.name = d.name) : c = d := by
  revert same
  cases c <;> cases d <;> decide

theorem name_ne_lambda (c : Combinator) : c.name ≠ "lambda" := by
  cases c <;> decide

theorem isWord_name (c : Combinator) : IsWord c.name.toList := by
  have all : ∀ c ∈ Combinator.all, c.name.toList.all isIdentifierContinue = true := by
    decide +kernel
  exact List.all_eq_true.mp (all c c.mem_all)

theorem isWord_text {lead : Lead} (plain : lead.Plain) : IsWord lead.text.toList := by
  cases lead with
  | lambda =>
    have letters : "lambda".toList.all isIdentifierContinue = true := by decide +kernel
    exact List.all_eq_true.mp letters
  | support c => exact isWord_name c
  | named name => exact plain.word

theorem text_ne_empty {lead : Lead} (plain : lead.Plain) : lead.text ≠ "" := by
  cases lead with
  | lambda => decide
  | support c => cases c <;> decide
  | named name => exact plain.nonempty

theorem named_ne_of_isReserved {name word : String} (plain : IsPlainName name)
    (reserved : isReserved word = true) : name ≠ word := by
  rintro rfl
  rw [plain.unreserved] at reserved
  cases reserved

theorem text_inj {lead other : Lead} (plain : lead.Plain) (plain' : other.Plain)
    (same : lead.text = other.text) : lead = other := by
  cases lead with
  | lambda =>
    cases other with
    | lambda => rfl
    | support c => exact absurd same.symm (name_ne_lambda c)
    | named name => exact absurd same.symm (named_ne_of_isReserved plain' (by decide))
  | support c =>
    cases other with
    | lambda => exact absurd same (name_ne_lambda c)
    | support d => exact congrArg support (name_injective same)
    | named name => exact absurd same.symm (named_ne_of_isReserved plain' (isReserved_name c))
  | named name =>
    cases other with
    | lambda => exact absurd same (named_ne_of_isReserved plain (by decide))
    | support d => exact absurd same (named_ne_of_isReserved plain (isReserved_name d))
    | named other => exact congrArg named same

theorem append_inj {lead other : Lead} (plain : lead.Plain) (plain' : other.Plain)
    {r s : List Char} (hr : Breaks r) (hs : Breaks s)
    (same : lead.text.toList ++ r = other.text.toList ++ s) : lead = other ∧ r = s := by
  obtain ⟨word, rest⟩ := word_append_inj (isWord_text plain) (isWord_text plain') hr hs same
  exact ⟨text_inj plain plain' (String.toList_injective word), rest⟩

end Lead

end JsonBinding
