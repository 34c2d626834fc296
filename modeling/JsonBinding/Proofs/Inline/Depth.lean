import JsonBinding.Proofs.Inline.Outcome
/-!
How deep the walks for hints and converters go. Each is a recursion over the graph that says what to
make of a type from what it makes of the parts (`hintVisitor`, `converterVisitor`), and goes on from
a type to the types that it descends to and no others. On a graph without inline cycles it comes to
its end with at most one call open for each type of the graph, and one for a reference that leads
outside (`recursion_bounded_by_graph`).
-/
namespace JsonBinding

/-- What the walk for a hint makes of types. -/
def hintVisitor (declared : TypeId → Bool) : Visitor (Location → Recorded Import TypeHint) where
  missing id l := Recorded.fail (.unknownType id l)
  primitive p _ := p.hint
  array items l := do
    Recorded.note .list
    return .list (← items l.item)
  map values l := do
    Recorded.note .dict
    return .dict (← values l.value)
  classRef id name _ := return .reference id name !declared id
  enumRef id name _ := return .reference id name !declared id
  formatted
    | .dateTime, _ => do
      Recorded.note .datetime
      return .datetime
    | f, l => Recorded.fail (.unsupportedFormat f l)
  emptyUnion l := Recorded.fail (.emptyUnion l)
  single only l := only (l.member 0)
  nullable inner l := do
    Recorded.note .optional
    return .optional (← inner (l.member 1))
  union members l := do
    Recorded.note .union
    return .union (← members.zipIdx.mapM fun (member, i) => member (l.member i))

def converterVisitor (d : Direction) : Visitor (Location → Recorded Combinator Converter) where
  missing id l := Recorded.fail (.unknownType id l)
  primitive p _ := p.convert
  array items l := do
    Recorded.nested .fromList (← items l.item)
  map values l := do
    Recorded.nested .fromDict (← values l.value)
  classRef _ name _ :=
    match d with
    | .fromJson => return .classFromDict name
    | .toJson => Recorded.typed .toClass name
  enumRef _ name _ :=
    match d with
    | .fromJson => return .enumValue name
    | .toJson => Recorded.typed .toEnum name
  formatted
    | .dateTime, _ =>
      match d with
      | .fromJson => Recorded.function .fromDatetime
      | .toJson => Recorded.function .toDatetime
    | f, l => Recorded.fail (.unsupportedFormat f l)
  emptyUnion l := Recorded.fail (.emptyUnion l)
  single only l := only (l.member 0)
  nullable inner l := do
    Recorded.nested .fromOptional (← inner (l.member 1))
  union members l := do
    Recorded.note .fromUnion
    return .union (← members.zipIdx.mapM fun (member, i) => member (l.member i))

/-- What is made of a written-out type is what the visitor makes of it. -/
structure Visitor.Makes {β : Type} (v : Visitor β) (make : Inline → β) : Prop where
  missing : ∀ id, make (.missing id) = v.missing id
  primitive : ∀ p, make (.primitive p) = v.primitive p
  array : ∀ items, make (.array items) = v.array (make items)
  map : ∀ values, make (.map values) = v.map (make values)
  classRef : ∀ id name, make (.classRef id name) = v.classRef id name
  enumRef : ∀ id name, make (.enumRef id name) = v.enumRef id name
  formatted : ∀ f, make (.formatted f) = v.formatted f
  emptyUnion : make .emptyUnion = v.emptyUnion
  single : ∀ only, make (.single only) = v.single (make only)
  nullable : ∀ inner, make (.nullable inner) = v.nullable (make inner)
  union : ∀ members, make (.union members) = v.union (members.map make)

theorem hintVisitor_makes (declared : TypeId → Bool) :
    (hintVisitor declared).Makes fun t => t.hint declared where
  missing _ := rfl
  primitive _ := rfl
  array _ := rfl
  map _ := rfl
  classRef _ _ := rfl
  enumRef _ _ := rfl
  formatted f := by cases f <;> rfl
  emptyUnion := rfl
  single _ := rfl
  nullable _ := rfl
  union members := by
    funext l
    simp only [Inline.hint, Inline.hintMembers_eq_mapM, hintVisitor, List.zipIdx_map,
      List.mapM_map]
    rfl

theorem converterVisitor_makes (d : Direction) :
    (converterVisitor d).Makes fun t => t.convert d where
  missing _ := rfl
  primitive _ := rfl
  array _ := rfl
  map _ := rfl
  classRef _ _ := rfl
  enumRef _ _ := rfl
  formatted f := by cases f <;> rfl
  emptyUnion := rfl
  single _ := rfl
  nullable _ := rfl
  union members := by
    funext l
    simp only [Inline.convert, Inline.convertMembers_eq_mapM, converterVisitor, List.zipIdx_map,
      List.mapM_map]
    rfl

namespace Visitor.Makes

variable {β : Type} {v : Visitor β} {make : Inline → β}

theorem visit (h : v.Makes make) (g : Graph) (rest : TypeId → Inline) (id : TypeId) :
    make (g.visit Inline.visitor rest id) = g.visit v (make ∘ rest) id := by
  unfold Graph.visit
  cases g.get? id with
  | none => exact h.missing id
  | some node =>
    cases node with
    | primitive p => exact h.primitive p
    | array items => exact h.array (rest items)
    | map values => exact h.map (rest values)
    | classType c => exact h.classRef id c.name
    | enumType e => exact h.enumRef id e.name
    | formatted f => exact h.formatted f
    | union members =>
      dsimp only
      cases g.unionShape members with
      | empty => exact h.emptyUnion
      | single only => exact h.single (rest only)
      | nullable inner => exact h.nullable (rest inner)
      | general ordered =>
        dsimp only
        rw [← List.map_map]
        exact h.union (ordered.map rest)

/-- To write a type out and make something of it comes to the same as to make it on the way. -/
theorem expand (h : v.Makes make) (g : Graph) (limit : Nat) :
    make ∘ g.expand limit = Graph.walkWithin (g.visit v) (fun id => make (.endless id)) limit := by
  induction limit with
  | zero => rfl
  | succ limit ih =>
    funext id
    rw [Graph.walkWithin, ← ih, ← h.visit, ← g.layer_eq_visit, Function.comp_apply,
      Graph.expand_succ]

end Visitor.Makes

namespace Graph

/-- A walk that calls itself downwards, and comes to an end although only so many calls may be open
at once. -/
structure EndsWithin {ω α : Type} (g : Graph) (limit : Nat)
    (v : Visitor (Location → Recorded ω α)) (walk : TypeId → Location → Recorded ω α) : Prop where
  callsDown : g.CallsDown (g.visit v)
  callsItself : walk = g.visit v walk
  within : ∀ more, limit ≤ more →
    walkWithin (g.visit v) (fun id l => Recorded.fail (.endlessType id l)) more = walk
  ends : ∀ id l stuck place, (walk id l).outcome ≠ .error (.endlessType stuck place)

variable {g : Graph}

theorem endsWithin_size {ω α : Type} {v : Visitor (Location → Recorded ω α)}
    {make : Inline → Location → Recorded ω α} (acyclic : g.InlineAcyclic) (makes : v.Makes make)
    (endless : ∀ id l, make (.endless id) l = Recorded.fail (.endlessType id l))
    (ends : ∀ id l stuck place, (make (g.inline id) l).outcome ≠
      .error (.endlessType stuck place)) :
    g.EndsWithin (g.size + 1) v fun id => make (g.inline id) := by
  have limited : (fun id => make (g.inline id)) =
      walkWithin (g.visit v) (fun id l => Recorded.fail (.endlessType id l)) (g.size + 1) := by
    rw [← funext fun id => funext (endless id)]
    exact makes.expand g (g.size + 1)
  have down := g.callsDown_visit v
  refine ⟨down, ?_, ?_, ends⟩
  · rw [limited]
    exact funext fun id => (walkWithin_eq acyclic down (Nat.le_succ (g.size + 1)) id).symm
  · intro more enough
    rw [limited]
    exact funext (walkWithin_eq acyclic down enough)

theorem unnamed_of_isChain {chain : List TypeId} (descending : List.IsChain g.Descends chain) :
    ∀ passed ∈ chain.dropLast, ∃ node, g.get? passed = some node ∧ node.declaredName? = none := by
  induction descending with
  | nil => simp
  | singleton last => simp
  | cons_cons step later ih =>
    rw [List.dropLast_cons_cons]
    exact List.forall_mem_cons.mpr ⟨step.unnamed, ih⟩

theorem faultOr_ne_endlessType {α : Type} (acyclic : g.InlineAcyclic) (id : TypeId) (l : Location)
    (value : α) (stuck : TypeId) (place : Location) :
    faultOr (g.fault? id l) value ≠ .error (.endlessType stuck place) := by
  cases stops : g.fault? id l with
  | none => exact nofun
  | some fault =>
    have unwritable : fault.IsUnwritable := isUnwritable_of_fault? acyclic stops
    intro same
    cases same
    exact unwritable

/-- On a graph without inline cycles the types that calls of a walk are open for are all different,
and all but the innermost are neither classes nor enums; so they are one more than the types of the
graph at most. The walks for hints and for converters of either direction call themselves downwards
only, need no more calls to be open at once, and never come back to a type without end. -/
theorem recursion_bounded_by_graph (acyclic : g.InlineAcyclic) :
    (∀ chain, List.IsChain g.Descends chain → chain.Nodup ∧ chain.length ≤ g.size + 1 ∧
      ∀ passed ∈ chain.dropLast, ∃ node, g.get? passed = some node ∧ node.declaredName? = none) ∧
    (∀ declared, g.EndsWithin (g.size + 1) (hintVisitor declared) (g.hint declared)) ∧
    ∀ d, g.EndsWithin (g.size + 1) (converterVisitor d) (g.converter d) := by
  refine ⟨fun chain descending => ⟨nodup_of_isChain acyclic descending,
    length_le_of_isChain acyclic descending, unnamed_of_isChain descending⟩,
    fun declared => ?_, fun d => ?_⟩
  · refine endsWithin_size acyclic (hintVisitor_makes declared) (fun _ _ => rfl)
      fun id l stuck place => ?_
    rw [Inline.outcome_hint]
    exact faultOr_ne_endlessType acyclic id l _ stuck place
  · refine endsWithin_size acyclic (converterVisitor_makes d) (fun _ _ => rfl)
      fun id l stuck place => ?_
    rw [Inline.outcome_convert]
    exact faultOr_ne_endlessType acyclic id l _ stuck place

/-- Folders of files and of dictionaries that lead nowhere; files know the folders they are in. -/
def folders : Graph :=
  ⟨#[.classType ⟨"Folder", .ofList [("content", ⟨"content", ⟨4⟩, false⟩),
      ("parent", ⟨"parent", ⟨0⟩, true⟩)]⟩,
    .classType ⟨"File", .ofList [("folder", ⟨"folder", ⟨0⟩, false⟩)]⟩,
    .primitive .null, .union [⟨5⟩, ⟨2⟩, ⟨1⟩], .array ⟨3⟩, .map ⟨9⟩]⟩

theorem folders_bounded :
    folders.InlineAcyclic ∧ List.IsChain folders.Descends [⟨4⟩, ⟨3⟩, ⟨5⟩, ⟨9⟩] ∧
      [⟨4⟩, ⟨3⟩, ⟨5⟩, (⟨9⟩ : TypeId)].length ≤ folders.size + 1 ∧
      (folders.converter .toJson ⟨4⟩ ⟨.entryPoint "Test", []⟩).outcome =
        .error (.unknownType ⟨9⟩ ⟨.entryPoint "Test", [.item, .member 1, .value]⟩) ∧
      ∀ d, folders.EndsWithin (folders.size + 1) (converterVisitor d) (folders.converter d) := by
  have acyclic : folders.InlineAcyclic :=
    inlineAcyclic_of_placeRank (fun place => [0, 0, 0, 2, 3, 1].getD place 0) (by decide)
  have chain : List.IsChain folders.Descends [⟨4⟩, ⟨3⟩, ⟨5⟩, ⟨9⟩] := by decide
  obtain ⟨chains, -, converters⟩ := recursion_bounded_by_graph acyclic
  exact ⟨acyclic, chain, (chains _ chain).2.1, rfl, converters⟩

end Graph

end JsonBinding
