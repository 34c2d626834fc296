import JsonBinding.Name.Casing
import JsonBinding.Name.Legal
/-!
Names of types, properties and enum cases made from arbitrary text.
-/
namespace JsonBinding

inductive NameStyle
  /-- Classes and enums: words are capitalized, acronyms kept. -/
  | type
  /-- Properties and functions: lower case, words joined by `_`. -/
  | property
  /-- Enum cases: upper case, words joined by `_`. -/
  | enumCase
  deriving DecidableEq, Repr

namespace NameStyle

def fallback : NameStyle → String
  | type => "Empty"
  | property => "empty"
  | enumCase => "EMPTY"

def combine (style : NameStyle) (words : List Word) : String :=
  match style with
  | type => combineWords words .capitalized (some .upper) ""
  | property => combineWords words .lower none "_"
  | enumCase => combineWords words .upper none "_"

end NameStyle

/-- The name made of legal words. One that would start with a character that no identifier starts
with gets a `_` in front. -/
def styleWords (words : List Word) (style : NameStyle) : String :=
  let name := style.combine words
  match name.toList with
  | [] => style.fallback
  | first :: _ => if isIdentifierStart first then name else "_" ++ name

/-- The name made of words that need not be legal. -/
def nameOfWords (words : List Word) (style : NameStyle) : String :=
  styleWords (legalizeWords words) style

def makeName (text : String) (style : NameStyle) : String :=
  nameOfWords (Word.split text) style

@[simp] theorem styleWords_nil (style : NameStyle) : styleWords [] style = style.fallback := by
  cases style <;> rfl

end JsonBinding
