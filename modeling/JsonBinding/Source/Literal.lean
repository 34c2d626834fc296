import JsonBinding.Character.Category
import JsonBinding.Text.Hex
/-!
String literals of the written language, in double quotes on one line. Backslash, quote, line feed,
carriage return and tab have escapes of two characters; all other control characters are written
with their code.
-/
namespace JsonBinding.Source

/-- How a character stands in a literal. -/
def escapeChar (c : Char) : List Char :=
  match c with
  | '\\' => ['\\', '\\']
  | '"' => ['\\', '"']
  | '\n' => ['\\', 'n']
  | '\r' => ['\\', 'r']
  | '\t' => ['\\', 't']
  | c => if Character.isControl c then '\\' :: 'x' :: Text.hex 2 c.toNat else [c]

def literalChars (text : List Char) : List Char :=
  '"' :: text.flatMap escapeChar ++ ['"']

def literal (text : String) : String :=
  String.ofList (literalChars text.toList)

end JsonBinding.Source
