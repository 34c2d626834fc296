import JsonBinding.Character.Category
import JsonBinding.Text.Lines
import JsonBinding.Text.Trim
/-!
Free text in the written module: comments, which go line by line, and docstrings, in which quotes
and backslashes are escaped so that nothing in the text can end them.
-/
namespace JsonBinding.Source

open Character

def indentation : String :=
  "    "

/-- A line one level further in; a blank line stays blank. -/
def indent (line : String) : String :=
  if line = "" then "" else indentation ++ line

def trimEnd (text : List Char) : List Char :=
  Text.dropEnd isWhitespace text

def trim (text : List Char) : List Char :=
  Text.trim isWhitespace text

/-- The comment that holds one line of text. -/
def commentLine (line : List Char) : List Char :=
  match trimEnd line with
  | [] => ['#']
  | text => '#' :: ' ' :: text

/-- The comment of a text: a line for every piece between the ends of lines. -/
def commentLines (text : String) : List String :=
  ((Text.unifyEnds text.toList).splitOn '\n').map fun line => String.ofList (commentLine line)

/-- How a character stands in a docstring. -/
def escapeDoc (c : Char) : List Char :=
  if c = '\\' ∨ c = '"' then ['\\', c] else [c]

/-- The lines of a text without the white space around it and at their ends. -/
def docLines (text : List Char) : List (List Char) :=
  (Text.lines (trim text)).map trimEnd

def docQuotes : String :=
  "\"\"\""

/-- The docstring of a description, on one line if it has only one. -/
def docstring (description : List Char) : List String :=
  match (docLines (description.flatMap escapeDoc)).map String.ofList with
  | [line] => [docQuotes ++ line ++ docQuotes]
  | lines => docQuotes :: lines ++ [docQuotes]

/-- The docstring of a type as it stands in its body; a blank description has none. -/
def docstringLines (description? : Option String) : List String :=
  match description? with
  | none => []
  | some description =>
    if trim description.toList = [] then []
    else (docstring description.toList).map indent

end JsonBinding.Source
