import JsonBinding.Character.Category
import JsonBinding.Character.CaseRows
/-!
Upper and lower case of characters and of text. A character may map to several; a capital sigma
that ends a word becomes a final sigma, and this is the only place where context matters.
-/
namespace JsonBinding.Character

/-- The image of a code point under the irregular rows, then the regular ones, then itself. -/
def mapCase (expansions : List (Nat × List Nat)) (rows : List CaseRow) (n : Nat) : List Nat :=
  match expansions.lookup n with
  | some image => image
  | none =>
    match rows.find? (·.covers n) with
    | some row => [row.map n]
    | none => [n]

def toUpper (c : Char) : List Char :=
  (mapCase upperExpansions upperRows c.toNat).map Char.ofNat

/-- The full lower-case mapping of a character outside any context. -/
def toLower (c : Char) : List Char :=
  (mapCase lowerExpansions lowerRows c.toNat).map Char.ofNat

/-- Whether the next character that is not passed over has a case. -/
def startsCased (text : List Char) : Bool :=
  ((text.dropWhile isCaseIgnorable).head?.map isCased).getD false

/-- The lower-case sigma: final after a cased character with no cased one following. -/
def lowerSigma (afterCased : Bool) (following : List Char) : Char :=
  if afterCased && !startsCased following then 'ς' else 'σ'

/-- Lower-cases text; `afterCased` tells whether the last character not passed over had a case. -/
def lowerAfter (afterCased : Bool) : List Char → List Char
  | [] => []
  | c :: following =>
    (if c = 'Σ' then [lowerSigma afterCased following] else toLower c) ++
      lowerAfter (if isCaseIgnorable c then afterCased else isCased c) following

def lowercase (text : List Char) : List Char :=
  lowerAfter false text

def uppercase (text : List Char) : List Char :=
  text.flatMap toUpper

@[simp] theorem uppercase_nil : uppercase [] = [] := rfl

@[simp] theorem uppercase_cons (c : Char) (text : List Char) :
    uppercase (c :: text) = toUpper c ++ uppercase text := rfl

@[simp] theorem lowercase_nil : lowercase [] = [] := rfl

end JsonBinding.Character
