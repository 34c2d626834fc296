import JsonBinding.Proofs.Inline.Outcome
/-!
How the types of a graph are spelled in hints, said on the graph alone. Among all types some are
known: classes and enums that are known go by their bare names, and all others by their names in
quotes, at whatever depth they stand (`Graph.Spells`). Which they are is a matter of ids, so two
types of one name need not be spelled alike. A hint that is built while just the known declarations
are complete spells its type or property in this way (`spells_of_sound`,
`spellsProperty_of_sound`).
-/
namespace JsonBinding

def Primitive.spelling : Primitive → String
  | any => "Any"
  | null => "None"
  | bool => "bool"
  | integer => "int"
  | double => "float"
  | string => "str"

theorem Primitive.text_hintTree (p : Primitive) : p.hintTree.text = p.spelling := by
  cases p <;> rfl

namespace Graph

/-- The spelling of a type where the given classes and enums are known. -/
inductive Spells (g : Graph) (known : List TypeId) : TypeId → String → Prop
  | primitive {id : TypeId} {p : Primitive} : g.get? id = some (.primitive p) →
      Spells g known id p.spelling
  | dateTime {id : TypeId} : g.get? id = some (.formatted .dateTime) → Spells g known id "datetime"
  | bareClass {id : TypeId} {c : ClassType} : g.get? id = some (.classType c) → id ∈ known →
      Spells g known id c.name
  | quotedClass {id : TypeId} {c : ClassType} : g.get? id = some (.classType c) → id ∉ known →
      Spells g known id ("'" ++ c.name ++ "'")
  | bareEnum {id : TypeId} {e : EnumType} : g.get? id = some (.enumType e) → id ∈ known →
      Spells g known id e.name
  | quotedEnum {id : TypeId} {e : EnumType} : g.get? id = some (.enumType e) → id ∉ known →
      Spells g known id ("'" ++ e.name ++ "'")
  | array {id items : TypeId} {text : String} : g.get? id = some (.array items) →
      Spells g known items text → Spells g known id ("List[" ++ text ++ "]")
  | map {id values : TypeId} {text : String} : g.get? id = some (.map values) →
      Spells g known values text → Spells g known id ("Dict[str, " ++ text ++ "]")
  /-- A union of one member is spelled as that member. -/
  | single {id only : TypeId} {members : List TypeId} {text : String} :
      g.get? id = some (.union members) → g.unionShape members = .single only →
      Spells g known only text → Spells g known id text
  | nullable {id inner : TypeId} {members : List TypeId} {text : String} :
      g.get? id = some (.union members) → g.unionShape members = .nullable inner →
      Spells g known inner text → Spells g known id ("Optional[" ++ text ++ "]")
  | union {id : TypeId} {members ordered : List TypeId} {texts : List String} :
      g.get? id = some (.union members) → g.unionShape members = .general ordered →
      List.Forall₂ (Spells g known) ordered texts →
      Spells g known id ("Union[" ++ ", ".intercalate texts ++ "]")

/-- The spelling of a property. One that may be missing is optional on top of its type, unless the
type accepts null as it is. -/
inductive SpellsProperty (g : Graph) (known : List TypeId) (property : Property) : String → Prop
  | plain {text : String} : g.wraps property = false → g.Spells known property.type text →
      SpellsProperty g known property text
  | optional {text : String} : g.wraps property = true → g.Spells known property.type text →
      SpellsProperty g known property ("Optional[" ++ text ++ "]")

variable {g : Graph} {known : List TypeId} {declared : TypeId → Bool}

theorem spells_members {rest : TypeId → Inline} {members : List TypeId}
    (each : ∀ member ∈ members, g.Spells known member ((rest member).hintTree declared).text) :
    List.Forall₂ (g.Spells known) members
      (TypeHint.texts (Inline.hintTrees declared (members.map rest))) := by
  induction members with
  | nil => exact .nil
  | cons member others ih =>
    have first := each member List.mem_cons_self
    have later := ih fun other among => each other (List.mem_cons_of_mem _ among)
    exact .cons first later

theorem text_reference (declared : TypeId → Bool) (id : TypeId) (name : String) :
    (TypeHint.reference id name !declared id).text =
      if declared id = true then name else "'" ++ name ++ "'" := by
  rw [TypeHint.text]
  cases declared id <;> rfl

/-- One layer of a type is one constructor of its spelling, and its parts are spelled one step less
deep. -/
theorem spells_expand (agrees : ∀ id, declared id = true ↔ id ∈ known) {depth : Nat} {id : TypeId}
    (writable : (g.expand depth id).Writable) :
    g.Spells known id ((g.expand depth id).hintTree declared).text := by
  induction depth generalizing id with
  | zero => exact writable.elim
  | succ depth ih =>
    rw [expand_succ] at writable ⊢
    cases found : g.get? id with
    | none =>
      simp only [layer, found] at writable
      exact writable.elim
    | some node =>
      cases node with
      | primitive p =>
        simp only [layer, found, Inline.hintTree, p.text_hintTree]
        exact .primitive found
      | array items =>
        simp only [layer, found] at writable ⊢
        exact .array found (ih writable)
      | map values =>
        simp only [layer, found] at writable ⊢
        exact .map found (ih writable)
      | classType c =>
        simp only [layer, found, Inline.hintTree, text_reference, agrees]
        split
        · next among => exact .bareClass found among
        · next absent => exact .quotedClass found absent
      | enumType e =>
        simp only [layer, found, Inline.hintTree, text_reference, agrees]
        split
        · next among => exact .bareEnum found among
        · next absent => exact .quotedEnum found absent
      | formatted f =>
        simp only [layer, found] at writable ⊢
        cases f with
        | dateTime => exact .dateTime found
        | date | time | uuid | uri | integerString | boolString => exact writable.elim
      | union members =>
        simp only [layer, found] at writable ⊢
        cases shape : g.unionShape members with
        | empty =>
          simp only [shape] at writable
          exact writable.elim
        | single only =>
          simp only [shape] at writable ⊢
          exact .single found shape (ih writable)
        | nullable inner =>
          simp only [shape] at writable ⊢
          exact .nullable found shape (ih writable)
        | general ordered =>
          simp only [shape] at writable ⊢
          have each := (Inline.allWritable_iff _).mp writable
          refine .union found shape (spells_members fun member among => ?_)
          exact ih (each _ (List.mem_map_of_mem among))

theorem spells_of_sound (agrees : ∀ id, declared id = true ↔ id ∈ known) {id : TypeId}
    {l : Location} (sound : g.fault? id l = none) :
    g.Spells known id ((g.inline id).hintTree declared).text :=
  spells_expand agrees (((g.inline id).fault?_eq_none_iff l).mp sound)

theorem spellsProperty_of_sound (agrees : ∀ id, declared id = true ↔ id ∈ known)
    {property : Property} {l : Location} (sound : g.fault? property.type l = none) :
    g.SpellsProperty known property (g.propertyHintTree declared property).text := by
  have plain := spells_of_sound agrees sound
  unfold propertyHintTree
  cases wrapped : g.wraps property with
  | false => exact .plain wrapped plain
  | true => exact .optional wrapped plain

end Graph

end JsonBinding
