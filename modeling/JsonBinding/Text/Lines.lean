/-!
Lines of a text. `lines` cuts free text at a line feed, with or without a carriage return in front
of it. A reader of source text sees the end of a line at a line feed, at a carriage return, and at
both in a row once; `unifyEnds` writes a line feed for each of these, so that one cut at every line
feed finds them all.
-/
namespace JsonBinding.Text

def consFirst (c : Char) : List (List Char) → List (List Char)
  | [] => [[c]]
  | line :: rest => (c :: line) :: rest

/-- The lines of a text, each of which ends at LF or at CR LF; none stands behind the last end. -/
def lines : List Char → List (List Char)
  | [] => []
  | '\r' :: '\n' :: rest => [] :: lines rest
  | c :: rest => if c = '\n' then [] :: lines rest else consFirst c (lines rest)

def replacePairs : List Char → List Char
  | [] => []
  | '\r' :: '\n' :: rest => '\n' :: replacePairs rest
  | c :: rest => c :: replacePairs rest

/-- Writes LF for every CR LF, and then for every CR that is left. -/
def unifyEnds (text : List Char) : List Char :=
  (replacePairs text).map fun c => if c = '\r' then '\n' else c

/-- Lines of source text under one another. -/
def unlines (lines : List String) : String :=
  "\n".intercalate lines

theorem unlines_append_cons (a : String) (lines : List String) :
    unlines (a :: lines) = a ++ unlines ("" :: lines) := by
  unfold unlines
  rw [← String.intercalate_cons_append, String.append_empty]

end JsonBinding.Text
