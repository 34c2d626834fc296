import JsonBinding.Combinator
import JsonBinding.Source.Literal
/-!
The words in the text of the support section. What a support function is declared over and what it
imports is told beside it; the lemmas here read it off the text. A type variable belongs to a
support function if its name is a word of the body, and an import if its symbol is one; the
declaration of a type variable defines its name, and has its own imports for words.
-/
namespace JsonBinding

namespace Source

/-- The words of an ASCII text: letters, digits and `_`, as many as stand in a row. -/
def words (text : String) : List String :=
  ((text.toList.splitOnP fun c => !(c.isAlphanum || c = '_')).filter (· ≠ [])).map String.ofList

theorem mem_words_iff {text word : String} :
    word ∈ words text ↔
      word.toList ∈ (text.toList.splitOnP fun c => !(c.isAlphanum || c = '_')).filter (· ≠ []) := by
  unfold words
  rw [List.mem_map]
  constructor
  · rintro ⟨letters, among, rfl⟩
    rw [String.toList_ofList]
    exact among
  · intro among
    exact ⟨word.toList, among, String.ofList_toList⟩

end Source

open Source

namespace TypeVariable

def name : TypeVariable → String
  | value => "T"
  | enumeration => "EnumT"

theorem mem_all (v : TypeVariable) : v ∈ all := by
  cases v <;> decide

theorem imports_known (v : TypeVariable) : ∀ i ∈ v.imports, i ∈ Import.known := by
  cases v <;> decide

end TypeVariable

namespace Combinator

theorem toList_body (c : Combinator) :
    c.body.toList = "\n".toList.intercalate (c.lines.map String.toList) :=
  String.toList_intercalate

/-- The body of a support function names its imports and its type variable, and has nothing in it
that a helper has at its head. The parts stand together because reading a body takes most of the
time. -/
theorem body_names (c : Combinator) :
    (∀ i ∈ Import.known, i ∈ c.imports ↔ i.symbol ∈ words c.body) ∧
      (∀ v ∈ TypeVariable.all, c.typeVariable? = some v ↔ v.name ∈ words c.body) ∧
      ¬ "_from_dict(s: Any) -> ".toList <:+: c.body.toList ∧
      ¬ "_to_dict(x: ".toList <:+: c.body.toList := by
  simp only [mem_words_iff, toList_body]
  cases c <;> decide +kernel

theorem imports_known (c : Combinator) : ∀ i ∈ c.imports, i ∈ Import.known := by
  cases c <;> decide

theorem typeVariable?_eq_some_iff (c : Combinator) (v : TypeVariable) :
    c.typeVariable? = some v ↔ v.name ∈ words c.body :=
  c.body_names.2.1 v v.mem_all

theorem not_readerHead_infix_body (c : Combinator) :
    ¬ "_from_dict(s: Any) -> ".toList <:+: c.body.toList :=
  c.body_names.2.2.1

theorem not_writerHead_infix_body (c : Combinator) :
    ¬ "_to_dict(x: ".toList <:+: c.body.toList :=
  c.body_names.2.2.2

end Combinator

end JsonBinding
