import JsonBinding.Character.Case
/-!
Words of arbitrary text. A word ends at a separator (white space, a control character, or ASCII
that is neither letter nor digit) and where its case tells that a new word starts. All other
characters stay in their word.
-/
namespace JsonBinding

open Character

structure Word where
  text : String
  /-- Whether the case of the word is kept where acronyms keep theirs. -/
  isAcronym : Bool
  deriving DecidableEq, Repr

/-- Whether a text of several characters has upper case and no lower case. -/
def isAcronymText (text : List Char) : Bool :=
  1 < text.length && text.any isUppercase && !text.any isLowercase

namespace Word

def ofText (text : String) : Word :=
  ⟨text, isAcronymText text.toList⟩

/-- Whether a character stands between words and belongs to none. -/
def isSeparator (c : Char) : Bool :=
  isWhitespace c || isControl c || c.toNat < 0x80 && !c.isAlphanum

/-- Whether `c` starts a new word after `previous`: a capital after a small letter or a numeral,
and the last capital of a run when a small letter follows. -/
def startsWord (previous c : Char) (next? : Option Char) : Bool :=
  isUppercase c &&
    (isLowercase previous || isNumeric previous || isUppercase previous && next?.any isLowercase)

def flush (current : List Char) : List (List Char) :=
  if current.isEmpty then [] else [current]

/-- The words of a text, of which `current` was read already. -/
def pieces (current : List Char) : List Char → List (List Char)
  | [] => flush current
  | c :: rest =>
    if isSeparator c then flush current ++ pieces [] rest
    else
      match current.getLast? with
      | none => pieces [c] rest
      | some previous =>
        if startsWord previous c rest.head? then current :: pieces [c] rest
        else pieces (current ++ [c]) rest

/-- Words of which all are acronyms tell nothing by it. -/
def clearUniformAcronyms (words : List Word) : List Word :=
  if words.all (·.isAcronym) then words.map fun word => { word with isAcronym := false } else words

def split (text : String) : List Word :=
  clearUniformAcronyms ((pieces [] text.toList).map fun piece => ofText (String.ofList piece))

@[simp] theorem flush_nil : flush [] = [] := rfl

theorem flatten_pieces (current text : List Char) :
    (pieces current text).flatten = current ++ text.filter (!isSeparator ·) := by
  induction text generalizing current with
  | nil =>
    cases current <;> simp [pieces, flush]
  | cons c rest ih =>
    unfold pieces
    split
    · next h =>
      cases current <;> simp [flush, ih, h]
    · next h =>
      split
      · next hc =>
        rw [List.getLast?_eq_none_iff] at hc
        simp [ih, h, hc]
      · split <;> simp [ih, h]

end Word

end JsonBinding
