import JsonBinding.Proofs.Source.Docstring
import JsonBinding.Proofs.Text.Carriage
/-!
Carriage returns in what is written for free text. Literals and comments have none, whatever they
are written for. A docstring has those that stand within a line of the description
(`carriageFree_docstringLines`), and behind each of these comes a character that shows
(`exists_holdsCarriage_of_docLines`), so that trimming the end of the module keeps it.
-/
namespace JsonBinding

open Character Text

namespace Source

/-- A carriage return that stands somewhere in front of a character that is no white space. -/
def HoldsCarriage (text : List Char) : Prop :=
  ∃ front c back, text = front ++ c :: back ∧ '\r' ∈ front ∧ isWhitespace c = false

theorem HoldsCarriage.of_infix {inner text : List Char} (holds : HoldsCarriage inner)
    (inside : inner <:+: text) : HoldsCarriage text := by
  obtain ⟨front, c, back, rfl, carriage, shows⟩ := holds
  obtain ⟨before, after, rfl⟩ := inside
  refine ⟨before ++ front, c, back ++ after, ?_, List.mem_append_right before carriage, shows⟩
  simp only [List.append_assoc, List.cons_append]

theorem HoldsCarriage.mem_trimEnd {text : List Char} (holds : HoldsCarriage text) :
    '\r' ∈ trimEnd text := by
  obtain ⟨front, c, back, rfl, carriage, shows⟩ := holds
  exact (prefix_dropEnd front back shows).subset (List.mem_append_left [c] carriage)

theorem holdsCarriage_trimEnd {text : List Char} (carriage : '\r' ∈ trimEnd text) :
    HoldsCarriage (trimEnd text) := by
  obtain ⟨front, c, ends, shows⟩ := exists_last_dropEnd (List.ne_nil_of_mem carriage)
  refine ⟨front, c, [], ends, ?_, shows⟩
  rw [trimEnd, ends] at carriage
  rcases List.mem_append.mp carriage with inFront | last
  · exact inFront
  · rw [← List.mem_singleton.mp last] at shows
    cases shows

theorem carriageFree_literal (text : String) : CarriageFree (literal text) := by
  intro among
  cases isControl_of_mem_literal among

theorem carriageFree_of_mem_commentLines {text line : String} (among : line ∈ commentLines text) :
    CarriageFree line :=
  (isComment_of_mem among).2.2

theorem carriageFree_indent {line : String} : CarriageFree (indent line) ↔ CarriageFree line := by
  unfold indent
  split
  · next blank => rw [blank]
  · exact carriageFree_append.trans (and_iff_right (by decide))

theorem carriageFree_map_indent {lines : List String} :
    (∀ line ∈ lines.map indent, CarriageFree line) ↔ ∀ line ∈ lines, CarriageFree line := by
  rw [List.forall_mem_map]
  exact forall₂_congr fun line _ => carriageFree_indent

theorem mem_flatMap_escapeDoc {line : List Char} : '\r' ∈ line.flatMap escapeDoc ↔ '\r' ∈ line := by
  rw [List.mem_flatMap]
  constructor
  · rintro ⟨c, among, inside⟩
    rcases escapeDoc_eq c with plain | escaped
    · rw [plain, List.mem_singleton] at inside
      exact inside ▸ among
    · rw [escaped, List.mem_cons, List.mem_singleton] at inside
      exact inside.resolve_left (by decide) ▸ among
  · exact fun among => ⟨'\r', among, List.mem_singleton_self _⟩

/-- A description has carriage returns in its docstring only where it has them within a line. -/
theorem carriageFree_docstring {description : List Char}
    (free : ∀ line ∈ docLines description, '\r' ∉ line) :
    ∀ line ∈ docstring description, CarriageFree line := by
  have written : ∀ line ∈ (docLines (description.flatMap escapeDoc)).map String.ofList,
      CarriageFree line := by
    rw [docLines_flatMap_escapeDoc, List.map_map, List.forall_mem_map]
    intro line among
    rw [Function.comp_apply, CarriageFree, String.toList_ofList, mem_flatMap_escapeDoc]
    exact free line among
  have quotes : CarriageFree docQuotes := by decide
  unfold docstring
  split
  · next line only =>
    rw [only, List.forall_mem_singleton] at written
    exact List.forall_mem_singleton.mpr ((quotes.append written).append quotes)
  · next lines _ =>
    exact List.forall_mem_append.mpr
      ⟨List.forall_mem_cons.mpr ⟨quotes, written⟩, List.forall_mem_singleton.mpr quotes⟩

theorem carriageFree_docstringLines {description? : Option String}
    (free : ∀ description, description? = some description →
      ∀ line ∈ docLines description.toList, '\r' ∉ line) :
    ∀ line ∈ docstringLines description?, CarriageFree line := by
  unfold docstringLines
  cases description? with
  | none => exact fun _ none => absurd none List.not_mem_nil
  | some description =>
    dsimp only
    split
    · exact fun _ none => absurd none List.not_mem_nil
    · exact carriageFree_map_indent.mpr (carriageFree_docstring (free description rfl))

theorem infix_indent (line : String) : line.toList <:+: (indent line).toList := by
  unfold indent
  split
  · next blank => exact blank ▸ List.infix_rfl
  · rw [String.toList_append]
    exact (List.suffix_append _ _).isInfix

theorem exists_infix_docstring {description line : List Char}
    (among : line ∈ docLines (description.flatMap escapeDoc)) :
    ∃ shown ∈ docstring description, line <:+: shown.toList := by
  have listed := List.mem_map_of_mem (f := String.ofList) among
  have same : line = (String.ofList line).toList := String.toList_ofList.symm
  unfold docstring
  split
  · next shown only =>
    rw [only, List.mem_singleton] at listed
    refine ⟨_, List.mem_singleton_self _, ?_⟩
    rw [same, listed, String.toList_append, String.toList_append]
    exact List.infix_append _ _ _
  · next shown _ =>
    exact ⟨_, List.mem_append_left _ (List.mem_cons_of_mem _ listed), same ▸ List.infix_rfl⟩

theorem exists_holdsCarriage_of_docLines {description : String} {line : List Char}
    (among : line ∈ docLines description.toList) (carriage : '\r' ∈ line) :
    ∃ shown ∈ docstringLines (some description), HoldsCarriage shown.toList := by
  have nonblank : trim description.toList ≠ [] := fun blank => by
    rw [docLines, blank] at among
    cases among
  have listed : line.flatMap escapeDoc ∈ docLines (description.toList.flatMap escapeDoc) := by
    rw [docLines_flatMap_escapeDoc]
    exact List.mem_map_of_mem among
  obtain ⟨shown, written, inside⟩ := exists_infix_docstring listed
  refine ⟨indent shown, ?_, ?_⟩
  · rw [docstringLines, if_neg nonblank]
    exact List.mem_map_of_mem written
  · refine HoldsCarriage.of_infix ?_ (inside.trans (infix_indent shown))
    obtain ⟨piece, _, ends⟩ := List.mem_map.mp listed
    rw [← ends]
    refine holdsCarriage_trimEnd ?_
    rw [ends]
    exact mem_flatMap_escapeDoc.mpr carriage

end Source

end JsonBinding
