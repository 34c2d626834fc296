import JsonBinding.Draft.Request
/-!
The text of a module. Its parts stand apart by two blank lines: the imports, the type variables, the
support functions, the declarations and the helpers of the entry points. A comment may come first.
-/
namespace JsonBinding

open Source Text

namespace Draft

/-- The imports of the support functions and of their type variables. -/
def supportImports (draft : Draft) : List Import :=
  draft.combinators.toList.flatMap fun c =>
    c.imports ++ (c.typeVariable?.map TypeVariable.imports).getD []

def allImports (draft : Draft) : Imports :=
  draft.imports.insertAll draft.supportImports

def typeVariableLines (draft : Draft) : List String :=
  draft.combinators.typeVariables.map TypeVariable.declaration

/-- The parts of the module that stand apart from one another. -/
def chunks (draft : Draft) : List String :=
  (if draft.allImports.isEmpty then [] else [draft.allImports.text]) ++
    (if draft.typeVariableLines.isEmpty then [] else [unlines draft.typeVariableLines]) ++
    draft.combinators.toList.map Combinator.body ++
    draft.blocks.map Block.text ++
    draft.entryPoints.flatMap EntryPoint.helpers

def usagePreamble : List String := [
  "# To use this code, make sure you",
  "#",
  "#     import json",
  "#",
  "# and then, to convert JSON from a string, do",
  "#"]

def header (draft : Draft) (options : Options) : List String :=
  if options.leadingComments.isEmpty then
    if options.usageComment && !options.justTypes && !draft.entryPoints.isEmpty then
      usagePreamble ++ draft.entryPoints.map EntryPoint.usageLine
    else []
  else options.leadingComments.flatMap commentLines

/-- The text of the module before its end is settled. -/
def rawText (draft : Draft) (options : Options) : String :=
  let header := draft.header options
  (if header.isEmpty then "" else unlines header ++ "\n\n") ++ "\n\n\n".intercalate draft.chunks

/-- The text of the module; it ends in one line feed. -/
def text (draft : Draft) (options : Options) : String :=
  String.ofList (trimEnd (draft.rawText options).toList ++ ['\n'])

end Draft

namespace Plan

/-- The requests for a module: declarations in order, then entry points in order. -/
def requests (order : List TypeId) (entryPoints : OrderedMap String TypeId) : List Request :=
  order.map .declare ++ entryPoints.entries.map fun (name, id) => .entryPoint name id

/-- The module with the given declarations and entry points, or the first fault. -/
def generate (plan : Plan) (order : List TypeId) (entryPoints : OrderedMap String TypeId) :
    Except Fault String :=
  match (plan.performUntilFault (requests order entryPoints)).on .empty with
  | (.ok _, draft) => .ok (draft.text plan.options)
  | (.error fault, _) => .error fault

end Plan

end JsonBinding
