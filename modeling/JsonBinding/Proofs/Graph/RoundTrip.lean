import JsonBinding.Graph.Reader
import JsonBinding.Graph.Writer
import JsonBinding.Proofs.Json.Record
/-!
Graphs that are written are read back. Every part of a graph is read from the text that is written
for it, up to the graph as a whole (`parse_toJson`). What is left of a graph whose references lead
nowhere is its first such reference (`load_inverts_toJson`).
-/
namespace JsonBinding

open Json

theorem TypeId.reads_number (id : TypeId) : Reads TypeId.read (number id.toNat) id := by
  have small : id.toNat < UInt32.size := id.index.toNat_lt
  have same : TypeId.ofNat id.toNat = id := TypeId.toNat_injective (TypeId.toNat_ofNat small)
  have read := (Json.reads_number small).map TypeId.ofNat
  rwa [same] at read

theorem Primitive.reads_name (p : Primitive) : Reads Primitive.read (quoted p.name) p := by
  have found : (all.map fun p => VariantForm.unit p.name p).find? (·.name = p.name) =
      some (.unit p.name p) := by
    cases p <;> rfl
  exact reads_bare_variant found rfl

theorem StringFormat.reads_name (f : StringFormat) : Reads StringFormat.read (quoted f.name) f := by
  have found : (all.map fun f => VariantForm.unit f.name f).find? (·.name = f.name) =
      some (.unit f.name f) := by
    cases f <;> rfl
  exact reads_bare_variant found rfl

section Records

variable {α β : Type}

theorem Json.FieldsRead.value {name : String} {isRequired : Bool}
    {value : List Char → Except Json.Fault (β × List Char)} {put : α → β → α} {text : List Char}
    {b : β} {record last : α} {fields : List (FieldForm α)} {entries : List (String × List Char)}
    (read : Reads value text b) (others : FieldsRead fields entries (put record b) last) :
    FieldsRead (.of name isRequired value put :: fields) ((name, text) :: entries) record last :=
  have field : Reads ((FieldForm.of name isRequired value put).read record) text (put record b) :=
    read.map (put record)
  .next field others

theorem Json.RecordForm.reads_wrapping (name field : String) (blank : α)
    {value : List Char → Except Json.Fault (α × List Char)} {text : List Char} {a : α}
    (read : Reads value text a) :
    Reads (RecordForm.wrapping name field blank value).read (object [(field, text)]) a := by
  apply RecordForm.reads_object
  · simp [wrapping]
  · apply FieldsRead.value read
    exact .done a

end Records

theorem Property.reads_written (p : Property) : Reads Property.form.read p.written p := by
  apply RecordForm.reads_object
  · decide
  · apply FieldsRead.value (reads_quoted p.jsonKey)
    apply FieldsRead.value p.type.reads_number
    apply FieldsRead.value (reads_boolean p.optional)
    exact .done p

theorem ClassType.reads_written (c : ClassType) : Reads ClassType.form.read c.written c := by
  have properties : Reads (readMap Property.form.read)
      (object (c.properties.entries.map fun entry => (entry.1, entry.2.written))) c.properties :=
    reads_map fun entry _ => entry.2.reads_written
  apply RecordForm.reads_object
  · decide
  · apply FieldsRead.value (reads_quoted c.name)
    apply FieldsRead.value properties
    exact .done c

theorem EnumType.reads_written (e : EnumType) : Reads EnumType.form.read e.written e := by
  have literals : Reads (readMap readString)
      (object (e.cases.entries.map fun entry => (entry.1, quoted entry.2))) e.cases :=
    reads_map fun entry _ => reads_quoted entry.2
  apply RecordForm.reads_object
  · decide
  · apply FieldsRead.value (reads_quoted e.name)
    apply FieldsRead.value literals
    exact .done e

theorem Node.reads_written (node : Node) : Reads Node.read node.written node := by
  cases node with
  | primitive p => exact reads_variant rfl (p.reads_name.map Node.primitive)
  | array items =>
    have content := RecordForm.reads_wrapping "struct variant Type::Array" "items" ⟨0⟩
      items.reads_number
    exact reads_variant rfl (content.map Node.array)
  | map values =>
    have content := RecordForm.reads_wrapping "struct variant Type::Map" "values" ⟨0⟩
      values.reads_number
    exact reads_variant rfl (content.map Node.map)
  | classType c => exact reads_variant rfl (c.reads_written.map Node.classType)
  | enumType e => exact reads_variant rfl (e.reads_written.map Node.enumType)
  | union members =>
    have items : Reads (readArray TypeId.read)
        (Json.array (members.map fun id => number id.toNat)) members :=
      reads_array fun id _ => id.reads_number
    have content := RecordForm.reads_wrapping "struct UnionType" "members" [] items
    exact reads_variant rfl (content.map Node.union)
  | formatted f => exact reads_variant rfl (f.reads_name.map Node.formatted)

namespace Graph

theorem reads_written (g : Graph) : Reads form.read g.written g := by
  have nodes : Reads (readArray Node.read) (Json.array (g.nodes.toList.map Node.written))
      g.nodes.toList :=
    reads_array fun node _ => node.reads_written
  exact RecordForm.reads_wrapping _ _ _ (nodes.map fun nodes => (⟨nodes.toArray⟩ : Graph))

theorem parse_toJson (g : Graph) : parse g.toJson = .ok g := by
  have read := g.reads_written.reads .text
  rw [List.append_nil] at read
  rw [parse, toJson, String.toList_ofList, readWhole, read]
  rfl

theorem danglingReference?_of_load {text : String} {g : Graph} (loaded : load text = .ok g) :
    g.danglingReference? = none := by
  unfold load at loaded
  split at loaded
  · cases loaded
  · split at loaded
    · cases loaded
    · next whole =>
      cases loaded
      exact whole

/-- Loading undoes writing. The text of a graph, with any characters in its names, keys and literals
and any order of its properties and cases, is loaded as that very graph, unless a reference leads
out of the graph: then the fault is the first such reference. So a graph that was loaded at all has
no such reference, and it is loaded again, the same, from its own text. -/
theorem load_inverts_toJson :
    (∀ g : Graph, load g.toJson =
      match g.danglingReference? with
      | none => .ok g
      | some dangling => .error (.reference dangling)) ∧
    ∀ (text : String) (g : Graph), load text = .ok g →
      g.danglingReference? = none ∧ load g.toJson = .ok g := by
  have written (g : Graph) : load g.toJson =
      match g.danglingReference? with
      | none => .ok g
      | some dangling => .error (.reference dangling) := by
    simp only [load, g.parse_toJson]
    cases g.danglingReference? <;> rfl
  refine ⟨written, ?_⟩
  intro text g loaded
  have whole := danglingReference?_of_load loaded
  have again := written g
  rw [whole] at again
  exact ⟨whole, again⟩

/-- A class whose one property leads back to it. -/
def selfReference : Graph :=
  ⟨#[.classType ⟨"A", OrderedMap.ofList [("next", ⟨"n", ⟨0⟩, false⟩)]⟩]⟩

/-- A text of that graph which is not how it is written: there is space in it, two fields have
changed places, another is left out, and a letter stands as an escape. -/
def respelledText : String :=
  "\x7b\"types\": [\x7b\"class\": \x7b\"name\": \"A\", \"properties\":\n" ++
    "\x7b\"next\": \x7b\"type\": 0, \"json_key\": \"\\u006e\"\x7d\x7d\x7d\x7d]\x7d\n"

theorem respelledText_loads_again :
    load respelledText = .ok selfReference ∧ selfReference.danglingReference? = none ∧
      load selfReference.toJson = .ok selfReference ∧
      load (⟨#[.array ⟨3⟩]⟩ : Graph).toJson = .error (.reference ⟨⟨0⟩, ⟨3⟩⟩) := by
  have loaded : load respelledText = .ok selfReference := rfl
  obtain ⟨whole, again⟩ := load_inverts_toJson.2 respelledText selfReference loaded
  have dangling := load_inverts_toJson.1 ⟨#[.array ⟨3⟩]⟩
  exact ⟨loaded, whole, again, dangling⟩

end Graph

end JsonBinding
