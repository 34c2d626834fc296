import JsonBinding.Character.Compatibility
import JsonBinding.Name.Word
import JsonBinding.Text.Trim
/-!
Characters that may stand in an identifier. The written module reads identifiers in their
compatibility normal form, so a character is judged by what it normalizes to. A letter, a letter
number or `_` may start an identifier; marks, decimal digits and connecting punctuation may follow.
-/
namespace JsonBinding

open Character

def isIdentifierStart (c : Char) : Bool :=
  c = '_' || category c ∈ [.lu, .ll, .lt, .lm, .lo, .nl]

def isIdentifierContinue (c : Char) : Bool :=
  isIdentifierStart c || category c ∈ [.mn, .mc, .nd, .pc]

/-- Whether a normal form may stand in an identifier, at its start or later. -/
def isLegalExpansion (atStart : Bool) : List Char → Bool
  | [] => false
  | first :: rest =>
    (if atStart then isIdentifierStart first else isIdentifierContinue first) &&
      rest.all isIdentifierContinue

inductive Fallback
  /-- A run of them becomes one replacement. -/
  | replace (replacement : Char)
  | drop
  deriving DecidableEq, Repr

/-- What one more character that is not accepted leaves behind. -/
def Fallback.mark (fallback : Fallback) (inRun : Bool) : List Char :=
  match fallback with
  | .replace replacement => if inRun then [] else [replacement]
  | .drop => []

/-- Rewrites text by the expansions of the accepted characters; `inRun` tells whether the character
before was not accepted. -/
def legalizeFrom (accept : Char → Option (List Char)) (fallback : Fallback) (inRun : Bool) :
    List Char → List Char
  | [] => []
  | c :: rest =>
    match accept c with
    | some expansion => expansion ++ legalizeFrom accept fallback false rest
    | none => fallback.mark inRun ++ legalizeFrom accept fallback true rest

def legalizeCharacters (accept : Char → Option (List Char)) (fallback : Fallback)
    (text : List Char) : List Char :=
  legalizeFrom accept fallback false text

def legalForm? (c : Char) : Option (List Char) :=
  let form := compatibilityForm c
  if isLegalExpansion false form then some form else none

/-- Makes all characters of a word legal and trims `_` at its ends. The first character is judged
like the others. -/
def legalizeChars (word : List Char) : List Char :=
  Text.trim (· = '_') (legalizeCharacters legalForm? (.replace '_') word)

def legalizeWord (word : String) : String :=
  String.ofList (legalizeChars word.toList)

/-- Makes words legal and leaves out those of which nothing remains. -/
def legalizeWords (words : List Word) : List Word :=
  (words.map fun word => { word with text := legalizeWord word.text }).filter (·.text ≠ "")

theorem isIdentifierContinue_of_start {c : Char} (h : isIdentifierStart c = true) :
    isIdentifierContinue c = true := by
  simp [isIdentifierContinue, h]

theorem isLegalExpansion_iff {form : List Char} :
    isLegalExpansion false form = true ↔
      form ≠ [] ∧ ∀ d ∈ form, isIdentifierContinue d = true := by
  cases form with
  | nil => simp [isLegalExpansion]
  | cons first rest => simp [isLegalExpansion]

theorem legalForm?_eq_some_iff {c : Char} {form : List Char} :
    legalForm? c = some form ↔
      compatibilityForm c = form ∧ form ≠ [] ∧ ∀ d ∈ form, isIdentifierContinue d = true := by
  unfold legalForm?
  dsimp only
  split
  · next accepted =>
    constructor
    · intro same
      cases same
      exact ⟨rfl, isLegalExpansion_iff.mp accepted⟩
    · rintro ⟨rfl, -⟩
      rfl
  · next rejected =>
    constructor
    · intro same
      cases same
    · rintro ⟨rfl, legal⟩
      exact absurd (isLegalExpansion_iff.mpr legal) rejected

@[simp] theorem legalizeCharacters_nil (accept : Char → Option (List Char)) (fallback : Fallback) :
    legalizeCharacters accept fallback [] = [] := rfl

end JsonBinding
