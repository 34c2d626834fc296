import JsonBinding.Text.Hex
/-!
JSON text without white space: strings, arrays, objects and truth values.
-/
namespace JsonBinding.Json

def escapeChar (c : Char) : List Char :=
  match c with
  | '"' => ['\\', '"']
  | '\\' => ['\\', '\\']
  | '\x08' => ['\\', 'b']
  | '\x0c' => ['\\', 'f']
  | '\n' => ['\\', 'n']
  | '\r' => ['\\', 'r']
  | '\t' => ['\\', 't']
  | c => if c.toNat < 0x20 then '\\' :: 'u' :: Text.hex 4 c.toNat else [c]

def quoted (text : String) : List Char :=
  '"' :: text.toList.flatMap escapeChar ++ ['"']

def separated : List (List Char) → List Char
  | [] => []
  | [item] => item
  | item :: rest => item ++ ',' :: separated rest

def array (items : List (List Char)) : List Char :=
  '[' :: separated items ++ [']']

def object (entries : List (String × List Char)) : List Char :=
  '{' :: separated (entries.map fun (key, value) => quoted key ++ ':' :: value) ++ ['}']

def boolean (b : Bool) : List Char :=
  if b then ['t', 'r', 'u', 'e'] else ['f', 'a', 'l', 's', 'e']

def number (n : Nat) : List Char :=
  Nat.toDigits 10 n

end JsonBinding.Json
