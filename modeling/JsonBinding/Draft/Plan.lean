import JsonBinding.Graph.Description
/-!
What a module is written from: the graph of its types, their descriptions, and what the module is to
look like.
-/
namespace JsonBinding

inductive PythonVersion
  /-- Classes with a constructor that is written out. -/
  | v36
  /-- Data classes. -/
  | v37
  deriving DecidableEq, Repr

/-- Whether classes leave their constructor to a decorator. -/
def PythonVersion.usesDataclasses (version : PythonVersion) : Bool :=
  version = .v37

structure Options where
  version : PythonVersion := .v36
  /-- Whether converters and all that they need are left out. -/
  justTypes : Bool := false
  /-- Whether the module starts with a comment that shows how to call it. -/
  usageComment : Bool := true
  /-- The comment at the start of the module; it takes the place of the usage comment. -/
  leadingComments : List String := []
  deriving DecidableEq, Repr

structure Plan where
  graph : Graph
  descriptions : Descriptions
  options : Options

end JsonBinding
