import JsonBinding.Name.Word
/-!
The case of words, and words put together to one name.
-/
namespace JsonBinding

inductive Casing
  | lower
  | upper
  /-- The first character upper case, all others lower case. -/
  | capitalized
  deriving DecidableEq, Repr

namespace Casing

/-- Brings characters into a case. The rest of a capitalized word is a text of its own, so that its
first character has nothing before it. -/
def applyChars : Casing → List Char → List Char
  | lower, text => Character.lowercase text
  | upper, text => Character.uppercase text
  | capitalized, [] => []
  | capitalized, first :: rest => Character.toUpper first ++ Character.lowercase rest

def apply (casing : Casing) (text : String) : String :=
  String.ofList (casing.applyChars text.toList)

end Casing

/-- Brings every word into its case and joins them; acronyms have a case of their own if one is
given. -/
def combineWords (words : List Word) (casing : Casing) (acronymCasing : Option Casing)
    (separator : String) : String :=
  separator.intercalate <| words.map fun word =>
    (if word.isAcronym then acronymCasing.getD casing else casing).apply word.text

@[simp] theorem combineWords_nil (casing : Casing) (acronymCasing : Option Casing)
    (separator : String) : combineWords [] casing acronymCasing separator = "" := rfl

end JsonBinding
