import JsonBinding.Graph.Basic
/-!
Texts that describe types and properties. They are looked up while a module is written and never
decide what a type is called or how it is converted.
-/
namespace JsonBinding

/-- A source of descriptions for types, and for the properties of classes by their names. -/
structure Descriptions where
  ofType : TypeId → Option String
  ofProperty : TypeId → String → Option String

namespace Descriptions

def none : Descriptions :=
  ⟨fun _ => .none, fun _ _ => .none⟩

/-- Describes a type, whatever was said of it before. -/
def describeType (d : Descriptions) (id : TypeId) (text : String) : Descriptions :=
  { d with ofType := fun i => if i = id then some text else d.ofType i }

def describeProperty (d : Descriptions) (id : TypeId) (name text : String) : Descriptions :=
  { d with ofProperty := fun i n => if i = id ∧ n = name then some text else d.ofProperty i n }

@[simp] theorem describeType_self (d : Descriptions) (id : TypeId) (text : String) :
    (d.describeType id text).ofType id = some text := by
  simp [describeType]

@[simp] theorem describeProperty_self (d : Descriptions) (id : TypeId) (name text : String) :
    (d.describeProperty id name text).ofProperty id name = some text := by
  simp [describeProperty]

end Descriptions

end JsonBinding
