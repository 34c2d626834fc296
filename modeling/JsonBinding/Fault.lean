import JsonBinding.Location
/-!
What can go wrong while a module is written. Each fault means that the graph, or the order in which
its types are asked for, does not fit what a module can hold.
-/
namespace JsonBinding

/-- A reason to stop writing a module. -/
inductive Fault
  /-- The content of a string has a format that no converter knows. -/
  | unsupportedFormat (format : StringFormat) (location : Location)
  /-- Only classes and enums are declared; all other types are written where they are used. -/
  | undeclarable (kind : Kind) (location : Location)
  | unknownType (id : TypeId) (location : Location)
  | emptyUnion (location : Location)
  | alreadyDeclared (name : String)
  /-- A type contains itself with neither a class nor an enum in between. -/
  | endlessType (id : TypeId) (location : Location)
  deriving DecidableEq, Repr

def Fault.message : Fault → String
  | unsupportedFormat format location =>
    "unsupported transformed string `" ++ format.name ++ "` at " ++ location.text
  | undeclarable kind location =>
    kind.text ++ " cannot be declared on its own (" ++ location.text ++ ")"
  | unknownType id location => "reference to unknown type " ++ id.text ++ " at " ++ location.text
  | emptyUnion location => "union without members at " ++ location.text
  | alreadyDeclared name => "type `" ++ name ++ "` is declared more than once"
  | endlessType id location => "type " ++ id.text ++ " contains itself at " ++ location.text

end JsonBinding
