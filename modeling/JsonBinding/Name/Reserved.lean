/-!
Names that a written module gives a meaning of its own, so that no generated name may take them.
-/
namespace JsonBinding

def keywords : List String := [
  "False", "None", "True", "and", "as", "assert", "async", "await", "break", "class", "continue",
  "def", "del", "elif", "else", "except", "finally", "for", "from", "global", "if", "import", "in",
  "is", "lambda", "nonlocal", "not", "or", "pass", "raise", "return", "try", "while", "with",
  "yield"]

def usedBuiltins : List String := [
  "bool", "dict", "float", "int", "isinstance", "list", "str", "staticmethod", "AssertionError",
  "Exception", "ValueError"]

def importedNames : List String := [
  "Any", "Callable", "Dict", "List", "Optional", "Type", "TypeVar", "Union", "cast", "datetime",
  "dataclass", "Enum"]

def typeVariableNames : List String :=
  ["T", "EnumT"]

def combinatorNames : List String := [
  "from_none", "from_bool", "from_int", "from_float", "from_str", "from_list", "from_dict",
  "from_optional", "from_union", "from_datetime", "to_datetime", "to_enum", "to_class"]

/-- The members that every class has. -/
def memberNames : List String :=
  ["to_dict", "__init__"]

def localNames : List String :=
  ["self", "obj", "result"]

/-- All names that generated names must keep away from. -/
def reservedNames : List String :=
  keywords ++ usedBuiltins ++ importedNames ++ typeVariableNames ++ combinatorNames ++
    memberNames ++ localNames

def isReserved (name : String) : Bool :=
  reservedNames.contains name

end JsonBinding
