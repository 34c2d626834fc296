import JsonBinding.Character.Category
import JsonBinding.Decimal
import JsonBinding.Text.Hex
/-!
What can be wrong with JSON text that is to be read as records of a known form: it may end too
early, it may be no JSON, or it may be JSON of another form. Only the last kind has a message.
-/
namespace JsonBinding.Json

/-- What stands in the text where something else was expected. -/
inductive Found
  | null
  | boolean (b : Bool)
  | integer (i : Int)
  | floating (f : Float)
  | string (text : String)
  | sequence
  | map
  /-- The name of a variant without the content that it needs. -/
  | bareVariant

/-- A text in quotes, with escapes for quotes, backslashes and all characters that do not show. -/
def shown (text : String) : String :=
  String.ofList ('"' :: text.toList.flatMap escape ++ ['"'])
where
  /-- How a character stands in the quotes. -/
  escape (c : Char) : List Char :=
    match c with
    | '\x00' => ['\\', '0']
    | '\t' => ['\\', 't']
    | '\r' => ['\\', 'r']
    | '\n' => ['\\', 'n']
    | '"' => ['\\', '"']
    | '\\' => ['\\', '\\']
    | c =>
      if Character.isExtender c || !Character.isPrintable c then
        '\\' :: 'u' :: '{' :: Text.hex (Text.hexWidth 6 c.toNat) c.toNat ++ ['}']
      else [c]

def Found.text : Found → String
  | null => "null"
  | boolean b => "boolean `" ++ (if b then "true" else "false") ++ "`"
  | integer i => "integer `" ++ toString i ++ "`"
  | floating f => "floating point `" ++ floatText f ++ "`"
  | string text => "string " ++ shown text
  | sequence => "sequence"
  | map => "map"
  | bareVariant => "unit variant"

/-- A way in which JSON is not of the form that was expected. -/
inductive FormFault
  | unknownVariant (name : String) (expected : List String)
  | missingField (name : String)
  | duplicateField (name : String)
  | invalidType (found : Found) (expected : String)
  | invalidValue (found : Found) (expected : String)
  | invalidLength (length : Nat) (expected : String)

def ticked (name : String) : String :=
  "`" ++ name ++ "`"

def FormFault.message : FormFault → String
  | unknownVariant name expected =>
    "unknown variant " ++ ticked name ++ ", expected one of " ++
      ", ".intercalate (expected.map ticked)
  | missingField name => "missing field " ++ ticked name
  | duplicateField name => "duplicate field " ++ ticked name
  | invalidType found expected => "invalid type: " ++ found.text ++ ", expected " ++ expected
  | invalidValue found expected => "invalid value: " ++ found.text ++ ", expected " ++ expected
  | invalidLength length expected =>
    "invalid length " ++ toString length ++ ", expected " ++ expected

inductive Fault
  /-- The text ends where more must follow. -/
  | earlyEnd
  /-- The text is no JSON here, or has more than a record can take. -/
  | malformed
  | form (fault : FormFault)

end JsonBinding.Json
