import JsonBinding.Proofs.Draft.ClassLines
import JsonBinding.Proofs.Draft.Generate
import JsonBinding.Proofs.Draft.Importing
import JsonBinding.Proofs.Inline.Carriage
import JsonBinding.Proofs.Name.Usable
import JsonBinding.Proofs.Source.Carriage
/-!
Carriage returns in a module. Free text gets into a module as a literal, as a comment, as a name
made of it or as a docstring; the first three have no carriage return whatever the text is. Hence a
draft has them in its docstrings only, which every step keeps (`Draft.CarriageFreeButDocs`), and the
text of a module has one iff a description of a type that it declares has one within a line
(`carriageFree_generate_iff`).
-/
namespace JsonBinding

open Source Text ClassBlock

theorem carriageFree_makeName (text : String) (style : NameStyle) :
    CarriageFree (makeName text style) := by
  intro among
  have solid : ∀ word ∈ legalizeWords (Word.split text), Solid word.text.toList :=
    fun _ listed => solid_of_mem_legalizeWords listed
  exact absurd ((usable_styleWords solid style).continues '\r' among) (by decide +kernel)

section Parts

/-- A field whose name and hint have no carriage return. -/
structure Field.NamesCarriageFree (field : Field) : Prop where
  name : CarriageFree field.name
  hint : CarriageFree field.hint.text

structure Member.NamesCarriageFree (member : Member) : Prop where
  field : member.field.NamesCarriageFree
  decoder : member.decoder.AddsNoCarriage
  encoder : member.encoder.AddsNoCarriage

structure EntryPoint.NamesCarriageFree (entry : EntryPoint) : Prop where
  function : CarriageFree entry.function
  hint : CarriageFree entry.hint.text
  decoder : entry.decoder.AddsNoCarriage
  encoder : entry.encoder.AddsNoCarriage

namespace Field.NamesCarriageFree

variable {field : Field}

theorem lines (free : field.NamesCarriageFree) : ∀ line ∈ field.lines, CarriageFree line := by
  refine List.forall_mem_append.mpr ⟨?_, List.forall_mem_singleton.mpr ?_⟩
  · cases field.description with
    | none => exact fun _ none => absurd none List.not_mem_nil
    | some description => exact fun _ among => carriageFree_of_mem_commentLines among
  · exact (free.name.append (by decide)).append free.hint

theorem parameter (free : field.NamesCarriageFree) : CarriageFree field.parameter :=
  (free.name.between (by decide) (by decide)).append free.hint

theorem assignment (free : field.NamesCarriageFree) : CarriageFree field.assignment :=
  (free.name.between (by decide) (by decide)).append free.name

end Field.NamesCarriageFree

namespace Member.NamesCarriageFree

variable {member : Member}

theorem readLine (free : member.NamesCarriageFree) : CarriageFree member.readLine := by
  refine (free.field.name.append (by decide)).append (free.decoder.apply _ ?_)
  exact (carriageFree_literal _).between (by decide) (by decide)

theorem writeLine (free : member.NamesCarriageFree) : CarriageFree member.writeLine := by
  refine ((carriageFree_literal _).between (by decide) (by decide)).append ?_
  exact free.encoder.apply _ (CarriageFree.append (by decide) free.field.name)

end Member.NamesCarriageFree

namespace ClassBlock

theorem carriageFree_bodyLines {fields : List Field}
    (free : ∀ field ∈ fields, field.NamesCarriageFree) :
    ∀ line ∈ bodyLines fields, CarriageFree line := by
  cases fields with
  | nil => exact List.forall_mem_singleton.mpr (by decide)
  | cons field rest =>
    refine carriageFree_map_indent.mpr fun line among => ?_
    obtain ⟨field, listed, own⟩ := List.mem_flatMap.mp among
    exact (free field listed).lines line own

theorem carriageFree_constructorLines {fields : List Field}
    (free : ∀ field ∈ fields, field.NamesCarriageFree) :
    ∀ line ∈ constructorLines fields, CarriageFree line := by
  refine List.forall_mem_cons.mpr ⟨?_, carriageFree_map_indent.mpr ?_⟩
  · refine CarriageFree.between (carriageFree_join ?_) (by decide) (by decide)
    exact List.forall_mem_map.mpr fun field among => (free field among).parameter
  · split
    · exact List.forall_mem_singleton.mpr (by decide)
    · exact List.forall_mem_map.mpr fun field among => (free field among).assignment

theorem carriageFree_readerLines {name : String} (named : CarriageFree name)
    {members : List Member} (free : ∀ member ∈ members, member.NamesCarriageFree) :
    ∀ line ∈ readerLines name members, CarriageFree line := by
  have arguments : CarriageFree (", ".intercalate (members.map (·.field.name))) := by
    rw [carriageFree_intercalate (by decide), List.forall_mem_map]
    exact fun member among => (free member among).field.name
  refine List.forall_mem_cons.mpr ⟨by decide, List.forall_mem_cons.mpr
    ⟨named.between (by decide) (by decide), carriageFree_map_indent.mpr ?_⟩⟩
  refine List.forall_mem_append.mpr
    ⟨List.forall_mem_cons.mpr ⟨by decide, ?_⟩, List.forall_mem_singleton.mpr ?_⟩
  · exact List.forall_mem_map.mpr fun member among => (free member among).readLine
  · exact arguments.between (named.between (by decide) (by decide)) (by decide)

theorem carriageFree_writerLines {members : List Member}
    (free : ∀ member ∈ members, member.NamesCarriageFree) :
    ∀ line ∈ writerLines members, CarriageFree line := by
  refine List.forall_mem_cons.mpr ⟨by decide, carriageFree_map_indent.mpr ?_⟩
  refine List.forall_mem_append.mpr
    ⟨List.forall_mem_cons.mpr ⟨by decide, ?_⟩, List.forall_mem_singleton.mpr (by decide)⟩
  exact List.forall_mem_map.mpr fun member among => (free member among).writeLine

theorem carriageFree_methodLines {methods : List (List String)}
    (free : ∀ method ∈ methods, ∀ line ∈ method, CarriageFree line) :
    ∀ line ∈ methodLines methods, CarriageFree line := by
  intro line among
  obtain ⟨method, listed, own⟩ := List.mem_flatMap.mp among
  rcases List.mem_cons.mp own with rfl | inside
  · decide
  · exact carriageFree_map_indent.mpr (free method listed) line inside

end ClassBlock

namespace EntryPoint.NamesCarriageFree

variable {entry : EntryPoint}

theorem signature (free : entry.NamesCarriageFree) {suffix argument middle last : String}
    (named : CarriageFree suffix) (taken : CarriageFree argument) (hinted : CarriageFree middle)
    (ended : CarriageFree last) :
    CarriageFree ("def " ++ entry.function ++ suffix ++ argument ++ middle ++ entry.hint.text ++
      last) := by
  have function := free.function.between (by decide : CarriageFree "def ") named
  exact (((function.append taken).append hinted).append free.hint).append ended

theorem helpers (free : entry.NamesCarriageFree) :
    ∀ helper ∈ entry.helpers, CarriageFree helper := by
  have argument : CarriageFree readerArgument ∧ CarriageFree writerArgument := by decide
  have reader : ∀ line ∈ entry.readerLines, CarriageFree line := by
    refine List.forall_mem_cons.mpr ⟨?_, List.forall_mem_singleton.mpr (carriageFree_indent.mpr ?_)⟩
    · exact free.signature (by decide) argument.1 (by decide) (by decide)
    · exact CarriageFree.append (by decide) (free.decoder.apply _ argument.1)
  have writer : ∀ line ∈ entry.writerLines, CarriageFree line := by
    refine List.forall_mem_cons.mpr ⟨?_, List.forall_mem_singleton.mpr (carriageFree_indent.mpr ?_)⟩
    · exact free.signature (by decide) argument.2 (by decide) (by decide)
    · exact CarriageFree.append (by decide) (free.encoder.apply _ argument.2)
  exact List.forall_mem_cons.mpr ⟨carriageFree_unlines.mpr reader,
    List.forall_mem_singleton.mpr (carriageFree_unlines.mpr writer)⟩

theorem usageLine (free : entry.NamesCarriageFree) : CarriageFree entry.usageLine :=
  free.function.between (by decide) (by decide)

end EntryPoint.NamesCarriageFree

end Parts

section Importing

theorem Import.carriageFree_of_known :
    ∀ i ∈ Import.known, CarriageFree i.source ∧ CarriageFree i.symbol := by
  decide

theorem Imports.carriageFree_text {imports : Imports}
    (known : ∀ i ∈ imports.added, i ∈ Import.known) : CarriageFree imports.text := by
  refine (carriageFree_intercalate (by decide)).mpr (List.forall_mem_map.mpr ?_)
  intro source listed
  obtain ⟨i, added, rfl⟩ := List.mem_map.mp (List.mem_eraseDups.mp listed)
  have symbols : ∀ symbol ∈ (imports.fromSource i.source).map (·.symbol), CarriageFree symbol :=
    List.forall_mem_map.mpr fun other among =>
      (Import.carriageFree_of_known other (known other (List.mem_filter.mp among).1)).2
  exact CarriageFree.append
    ((Import.carriageFree_of_known i (known i added)).1.between (by decide) (by decide))
    ((carriageFree_intercalate (by decide)).mpr symbols)

end Importing

section Drafts

/-- The lines of a declaration, of which only those of its docstring may have carriage returns. -/
def Block.CarriageFreeButDoc (d : Descriptions) (block : Block) : Prop :=
  ∃ before after, block.lines = before ++ docstringLines (d.ofType block.id) ++ after ∧
    ∀ line ∈ before ++ after, CarriageFree line

structure Draft.CarriageFreeButDocs (d : Descriptions) (draft : Draft) : Prop where
  blocks : ∀ block ∈ draft.blocks, block.CarriageFreeButDoc d
  entryPoints : ∀ entry ∈ draft.entryPoints, entry.NamesCarriageFree

namespace Plan

variable {plan : Plan}

theorem namesCarriageFree_soundFields (free : plan.graph.NamesCarriageFree)
    (declared : TypeId → Bool) {id : TypeId} {c : ClassType}
    (found : plan.graph.get? id = some (.classType c)) :
    ∀ field ∈ plan.soundFields declared id c, field.NamesCarriageFree := by
  refine List.forall_mem_map.mpr fun entry listed => ⟨?_, free.propertyHintTree declared entry.2⟩
  exact (free.class found).2 entry.1 (List.mem_map_of_mem listed)

theorem namesCarriageFree_soundMembers (free : plan.graph.NamesCarriageFree)
    (declared : TypeId → Bool) {id : TypeId} {c : ClassType}
    (found : plan.graph.get? id = some (.classType c)) :
    ∀ member ∈ plan.soundMembers declared id c, member.NamesCarriageFree := by
  intro member among
  have field := List.mem_map_of_mem (f := Member.field) among
  rw [map_field_soundMembers] at field
  rw [soundMembers_eq] at among
  obtain ⟨entry, _, rfl⟩ := List.mem_map.mp among
  exact ⟨namesCarriageFree_soundFields free declared found _ field,
    free.propertyConverterTree .fromJson entry.2, free.propertyConverterTree .toJson entry.2⟩

theorem carriageFree_soundMethods (free : plan.graph.NamesCarriageFree)
    (declared : TypeId → Bool) {id : TypeId} {c : ClassType}
    (found : plan.graph.get? id = some (.classType c)) :
    ∀ method ∈ plan.soundMethods declared id c, ∀ line ∈ method, CarriageFree line := by
  have members := namesCarriageFree_soundMembers free declared found
  unfold soundMethods
  split
  · exact List.forall_mem_nil _
  · refine List.forall_mem_append.mpr ⟨?_, List.forall_mem_cons.mpr
      ⟨carriageFree_readerLines (free.class found).1 members,
        List.forall_mem_singleton.mpr (carriageFree_writerLines members)⟩⟩
    split
    · exact List.forall_mem_nil _
    · exact List.forall_mem_singleton.mpr
        (carriageFree_constructorLines (namesCarriageFree_soundFields free declared found))

theorem carriageFreeButDoc_soundClassBlock (free : plan.graph.NamesCarriageFree)
    (declared : TypeId → Bool) {id : TypeId} {c : ClassType}
    (found : plan.graph.get? id = some (.classType c)) :
    (Block.classBlock (plan.soundClassBlock declared id c)).CarriageFreeButDoc
      plan.descriptions := by
  refine ⟨decoratorLines plan.options.version.usesDataclasses ++ [header c.name],
    bodyLines (plan.soundFields declared id c) ++
      methodLines (plan.soundMethods declared id c), ?_, ?_⟩
  · rw [Block.lines, lines_soundClassBlock, soundHead]
    simp only [List.append_assoc, List.cons_append, List.nil_append]
    rfl
  · have decorator : ∀ isDataclass, ∀ line ∈ decoratorLines isDataclass, CarriageFree line := by
      decide
    have named : CarriageFree (header c.name) :=
      (free.class found).1.between (by decide) (by decide)
    have fields := carriageFree_bodyLines (namesCarriageFree_soundFields free declared found)
    have methods := carriageFree_methodLines (carriageFree_soundMethods free declared found)
    simp only [List.forall_mem_append, List.forall_mem_singleton]
    exact ⟨⟨decorator _, named⟩, fields, methods⟩

theorem carriageFreeButDoc_enumBlock (free : plan.graph.NamesCarriageFree) {id : TypeId}
    {e : EnumType} (found : plan.graph.get? id = some (.enumType e)) :
    (Block.enumBlock (plan.enumBlock id e)).CarriageFreeButDoc plan.descriptions := by
  refine ⟨["class " ++ e.name ++ "(Enum):"],
    (if e.cases.entries.isEmpty then ["pass"]
      else e.cases.entries.map EnumBlock.caseLine).map indent, rfl, ?_⟩
  refine List.forall_mem_append.mpr ⟨List.forall_mem_singleton.mpr ?_, ?_⟩
  · exact (free.enum found).1.between (by decide) (by decide)
  · refine carriageFree_map_indent.mpr ?_
    split
    · exact List.forall_mem_singleton.mpr (by decide)
    · refine List.forall_mem_map.mpr fun entry listed => ?_
      have named := (free.enum found).2 entry.1 (List.mem_map_of_mem listed)
      exact (named.append (by decide)).append (carriageFree_literal entry.2)

theorem namesCarriageFree_soundEntryPoint (free : plan.graph.NamesCarriageFree)
    (declared : TypeId → Bool) (name : String) (id : TypeId) :
    (plan.soundEntryPoint declared name id).NamesCarriageFree where
  function := by
    dsimp only [soundEntryPoint]
    exact carriageFree_makeName name .property
  hint := free.hintTree declared id
  decoder := free.converterTree .fromJson id
  encoder := free.converterTree .toJson id

theorem Step.carriageFreeButDocs (free : plan.graph.NamesCarriageFree) {draft next : Draft}
    {request : Request} {outcome : Except Fault Unit}
    (step : plan.Step draft request outcome next)
    (h : draft.CarriageFreeButDocs plan.descriptions) :
    next.CarriageFreeButDocs plan.descriptions := by
  cases step with
  | unknown | undeclarable | again | passedOver => exact h
  | brokenClass | brokenEntryPoint => exact ⟨h.blocks, h.entryPoints⟩
  | soundClass found =>
    refine ⟨List.forall_mem_append.mpr ⟨h.blocks, List.forall_mem_singleton.mpr ?_⟩, ?_⟩
    · exact carriageFreeButDoc_soundClassBlock free _ found
    · rw [withClass, withBodyNeeds_entryPoints]
      exact h.entryPoints
  | enum found =>
    refine ⟨List.forall_mem_append.mpr ⟨h.blocks, List.forall_mem_singleton.mpr ?_⟩, h.entryPoints⟩
    exact carriageFreeButDoc_enumBlock free found
  | soundEntryPoint =>
    refine ⟨h.blocks, List.forall_mem_append.mpr ⟨h.entryPoints, List.forall_mem_singleton.mpr ?_⟩⟩
    exact namesCarriageFree_soundEntryPoint free _ _ _

theorem carriageFreeButDocs (free : plan.graph.NamesCarriageFree) (requests : List Request) :
    (plan.draftOf requests).CarriageFreeButDocs plan.descriptions := by
  have start : Draft.empty.CarriageFreeButDocs plan.descriptions :=
    ⟨List.forall_mem_nil _, List.forall_mem_nil _⟩
  exact @run_induction plan (fun _ draft => draft.CarriageFreeButDocs plan.descriptions)
    (fun _ _ _ _ _ h step => step.carriageFreeButDocs free h) requests [] .empty start

end Plan

end Drafts

namespace Draft

variable {d : Descriptions} {draft : Draft}

theorem carriageFree_header (h : draft.CarriageFreeButDocs d) (options : Options) :
    ∀ line ∈ draft.header options, CarriageFree line := by
  unfold header
  split
  · split
    · refine List.forall_mem_append.mpr ⟨by decide, List.forall_mem_map.mpr ?_⟩
      exact fun entry among => (h.entryPoints entry among).usageLine
    · exact List.forall_mem_nil _
  · intro line among
    obtain ⟨comment, _, inside⟩ := List.mem_flatMap.mp among
    exact carriageFree_of_mem_commentLines inside

theorem carriageFree_chunks (h : draft.CarriageFreeButDocs d)
    (known : ∀ i ∈ draft.allImports.added, i ∈ Import.known)
    (blocks : ∀ block ∈ draft.blocks, CarriageFree block.text) :
    ∀ chunk ∈ draft.chunks, CarriageFree chunk := by
  have typeVariable : ∀ v : TypeVariable, CarriageFree v.declaration := by
    intro v
    cases v <;> decide
  have body : ∀ c : Combinator, CarriageFree c.body := by
    intro c
    refine carriageFree_unlines.mpr ?_
    cases c <;> decide +kernel
  unfold chunks
  simp only [List.forall_mem_append, List.forall_mem_map]
  refine ⟨⟨⟨⟨?_, ?_⟩, fun c _ => body c⟩, blocks⟩, ?_⟩
  · split
    · exact List.forall_mem_nil _
    · exact List.forall_mem_singleton.mpr (Imports.carriageFree_text known)
  · split
    · exact List.forall_mem_nil _
    · refine List.forall_mem_singleton.mpr (carriageFree_unlines.mpr ?_)
      exact List.forall_mem_map.mpr fun v _ => typeVariable v
  · intro helper among
    obtain ⟨entry, listed, inside⟩ := List.mem_flatMap.mp among
    exact (h.entryPoints entry listed).helpers helper inside

theorem carriageFree_rawText {options : Options}
    (header : ∀ line ∈ draft.header options, CarriageFree line)
    (chunks : ∀ chunk ∈ draft.chunks, CarriageFree chunk) :
    CarriageFree (draft.rawText options) := by
  have parts : CarriageFree ("\n\n\n".intercalate draft.chunks) :=
    (carriageFree_intercalate (by decide)).mpr chunks
  refine CarriageFree.append ?_ parts
  split
  · decide
  · exact (carriageFree_unlines.mpr header).append (by decide)

/-- Trimming the end of a module removes nothing in front of a character that shows. -/
theorem carriageFree_text_iff (draft : Draft) (options : Options) :
    CarriageFree (draft.text options) ↔ '\r' ∉ trimEnd (draft.rawText options).toList := by
  rw [CarriageFree, text, String.toList_ofList, List.mem_append, not_or]
  exact and_iff_left (by decide)

theorem infix_rawText {options : Options} {chunk : String} (among : chunk ∈ draft.chunks) :
    chunk.toList <:+: (draft.rawText options).toList := by
  rw [rawText, String.toList_append]
  exact (infix_intercalate among).trans (List.suffix_append _ _).isInfix

end Draft

theorem Block.CarriageFreeButDoc.carriageFree_text {d : Descriptions} {block : Block}
    (h : block.CarriageFreeButDoc d)
    (free : ∀ description, d.ofType block.id = some description →
      ∀ line ∈ docLines description.toList, '\r' ∉ line) : CarriageFree block.text := by
  obtain ⟨before, after, lines, others⟩ := h
  obtain ⟨front, back⟩ := List.forall_mem_append.mp others
  refine carriageFree_unlines.mpr ?_
  rw [lines]
  exact List.forall_mem_append.mpr
    ⟨List.forall_mem_append.mpr ⟨front, carriageFree_docstringLines free⟩, back⟩

theorem Block.CarriageFreeButDoc.holdsCarriage_text {d : Descriptions} {block : Block}
    (h : block.CarriageFreeButDoc d) {description : String}
    (described : d.ofType block.id = some description) {line : List Char}
    (among : line ∈ docLines description.toList) (carriage : '\r' ∈ line) :
    HoldsCarriage block.text.toList := by
  obtain ⟨before, after, lines, _⟩ := h
  obtain ⟨shown, written, holds⟩ := exists_holdsCarriage_of_docLines among carriage
  rw [described] at lines
  have listed : shown ∈ block.lines := by
    rw [lines]
    exact List.mem_append_left _ (List.mem_append_right _ written)
  exact holds.of_infix (infix_intercalate listed)

namespace Plan

variable {plan : Plan}

/-- Where no name in the graph has a carriage return, the only ones in a module that is generated
are those within a line of the description of a type that it declares. None comes from the JSON
keys, the literals of enums, the descriptions of properties, the names of entry points or the
comments in front, and none from the line ends of descriptions. -/
theorem carriageFree_generate_iff (names : plan.graph.NamesCarriageFree) {order : List TypeId}
    {entryPoints : OrderedMap String TypeId} {text : String}
    (generated : plan.generate order entryPoints = .ok text) :
    CarriageFree text ↔
      ∀ id ∈ order, ∀ description, plan.descriptions.ofType id = some description →
        ∀ line ∈ docLines description.toList, '\r' ∉ line := by
  obtain ⟨succeed, written⟩ := (plan.generate_eq_ok_iff order entryPoints text).mp generated
  have ids := (plan.ledger (requests order entryPoints)).blocks
  rw [declarations_of_allSucceed succeed, filterMap_declares?_requests] at ids
  have known := plan.allKnown (requests order entryPoints)
  have clear := carriageFreeButDocs names (requests order entryPoints)
  generalize plan.draftOf (requests order entryPoints) = draft at written ids known clear
  rw [← written, draft.carriageFree_text_iff]
  constructor
  · intro free id ordered description described line among carriage
    rw [← ids] at ordered
    obtain ⟨block, listed, rfl⟩ := List.mem_map.mp ordered
    have holds := (clear.blocks block listed).holdsCarriage_text described among carriage
    have chunk : block.text ∈ draft.chunks :=
      List.mem_append_left _ (List.mem_append_right _ (List.mem_map_of_mem listed))
    exact free (holds.of_infix (Draft.infix_rawText chunk)).mem_trimEnd
  · intro free among
    have blocks : ∀ block ∈ draft.blocks, CarriageFree block.text := fun block listed =>
      (clear.blocks block listed).carriageFree_text
        (free block.id (ids ▸ List.mem_map_of_mem listed))
    have raw := Draft.carriageFree_rawText (Draft.carriageFree_header clear plan.options)
      (Draft.carriageFree_chunks clear known blocks)
    have left : trimEnd (draft.rawText plan.options).toList <+:
        (draft.rawText plan.options).toList := dropEnd_prefix _ _
    exact raw (left.subset among)

/-- A letter with carriage returns wherever free text may stand, but only at the ends of the lines
that describe its type. -/
def letter : Plan where
  graph := ⟨#[
    .classType ⟨"Letter", .ofList [("text", ⟨"te\rxt", ⟨1⟩, false⟩), ("tone", ⟨"\r", ⟨2⟩, true⟩)]⟩,
    .primitive .string, .enumType ⟨"Tone", .ofList [("KIND", "ki\rnd")]⟩]⟩
  descriptions := (Descriptions.none.describeType ⟨0⟩ "A letter.\r\nIt ends.\r").describeProperty
    ⟨0⟩ "text" "All\rof it."
  options := { leadingComments := ["By\rhand"] }

theorem letter_carriageFree :
    letter.graph.NamesCarriageFree ∧
      ∃ text, letter.generate [⟨2⟩, ⟨0⟩] (.ofList [("let\rter", ⟨0⟩)]) = .ok text ∧
        CarriageFree text := by
  have names : letter.graph.NamesCarriageFree := by decide +kernel
  have succeed : AllSucceed (letter.history (requests [⟨2⟩, ⟨0⟩] (.ofList [("let\rter", ⟨0⟩)]))) :=
    allSucceed_cons.mpr ⟨rfl, allSucceed_cons.mpr ⟨rfl, allSucceed_cons.mpr ⟨rfl, allSucceed_nil⟩⟩⟩
  have generated := (letter.generate_eq_ok_iff _ _ _).mpr ⟨succeed, rfl⟩
  refine ⟨names, _, generated, (carriageFree_generate_iff names generated).mpr ?_⟩
  have lines : ∀ line ∈ docLines "A letter.\r\nIt ends.\r".toList, '\r' ∉ line := by decide +kernel
  refine List.forall_mem_cons.mpr ⟨nofun, List.forall_mem_singleton.mpr ?_⟩
  rintro description ⟨⟩
  exact lines

/-- A class that is described by two words with a carriage return between them. -/
def brokenLine : Plan where
  graph := ⟨#[.classType ⟨"Note", .empty⟩]⟩
  descriptions := Descriptions.none.describeType ⟨0⟩ "first\rsecond"
  options := { justTypes := true }

/-- The docstring is cut at line feeds only, so that the carriage return stays in it. -/
theorem brokenLine_carriage :
    brokenLine.graph.NamesCarriageFree ∧
      brokenLine.generate [⟨0⟩] .empty =
        .ok "class Note:\n    \"\"\"first\rsecond\"\"\"\n    pass\n" ∧
      ¬ CarriageFree "class Note:\n    \"\"\"first\rsecond\"\"\"\n    pass\n" := by
  have succeed : AllSucceed (brokenLine.history (requests [⟨0⟩] .empty)) :=
    allSucceed_cons.mpr ⟨rfl, allSucceed_nil⟩
  have raw : (brokenLine.draftOf (requests [⟨0⟩] .empty)).rawText brokenLine.options =
      "class Note:\n    \"\"\"first\rsecond\"\"\"\n    pass" := by decide +kernel
  refine ⟨by decide +kernel, (brokenLine.generate_eq_ok_iff _ _ _).mpr ⟨succeed, ?_⟩, by decide⟩
  rw [Draft.text, raw]
  decide +kernel

end Plan

end JsonBinding
