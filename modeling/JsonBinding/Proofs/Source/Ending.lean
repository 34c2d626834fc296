import JsonBinding.Proofs.Source.Comment
import JsonBinding.Source.Literal
import Mathlib.Data.List.Basic
import Mathlib.Data.List.Induction
/-!
Texts that end in a character that shows. Trimming the end takes nothing from such a text
(`trimEnd_of_endsShown`), and from one with white space behind it just this
(`trimEnd_append_of_blank`). Whether a text is one depends on what stands last in it, be it a part
or a line.
-/
namespace JsonBinding.Source

open Character Text

/-- A text whose last character is no white space. -/
def EndsShown (text : String) : Prop :=
  ∃ c, text.toList.getLast? = some c ∧ isWhitespace c = false

theorem any_getLast?_iff (text : String) :
    text.toList.getLast?.any (!isWhitespace ·) = true ↔ EndsShown text := by
  simp only [Option.any_eq_true, Bool.not_eq_true', EndsShown]

instance (text : String) : Decidable (EndsShown text) :=
  decidable_of_iff _ (any_getLast?_iff text)

/-- Lines of which the last one ends so. -/
def LastShown (lines : List String) : Prop :=
  ∃ front last, lines = front ++ [last] ∧ EndsShown last

theorem EndsShown.append {text : String} (shown : EndsShown text) (front : String) :
    EndsShown (front ++ text) := by
  obtain ⟨c, last, shows⟩ := shown
  refine ⟨c, ?_, shows⟩
  rw [String.toList_append, List.getLast?_append, last]
  rfl

theorem EndsShown.ne_empty {text : String} (shown : EndsShown text) : text ≠ "" := by
  rintro rfl
  obtain ⟨c, last, _⟩ := shown
  cases last

theorem EndsShown.exists_last {text : String} (shown : EndsShown text) :
    ∃ front c, text.toList = front ++ [c] ∧ isWhitespace c = false := by
  obtain ⟨c, last, shows⟩ := shown
  obtain ⟨front, whole⟩ := List.getLast?_eq_some_iff.mp last
  exact ⟨front, c, whole, shows⟩

theorem EndsShown.indent {line : String} (shown : EndsShown line) : EndsShown (indent line) := by
  rw [Source.indent, if_neg shown.ne_empty]
  exact shown.append indentation

theorem endsShown_of_mem_commentLines {text line : String} (among : line ∈ commentLines text) :
    EndsShown line := by
  rw [commentLines_eq] at among
  obtain ⟨piece, _, rfl⟩ := List.mem_map.mp among
  rw [EndsShown, String.toList_ofList]
  exact exists_last_commentLine piece

theorem endsShown_literal (text : String) : EndsShown (literal text) := by
  refine ⟨'"', ?_, by decide⟩
  rw [literal, String.toList_ofList, literalChars]
  exact List.getLast?_concat

theorem trimEnd_of_endsShown {text : String} (shown : EndsShown text) :
    trimEnd text.toList = text.toList := by
  obtain ⟨front, c, whole, shows⟩ := shown.exists_last
  rw [whole]
  exact dropEnd_append_singleton_of_neg front shows

theorem trimEnd_append_of_blank {blank : List Char} (blanks : ∀ c ∈ blank, isWhitespace c = true)
    (text : List Char) : trimEnd (text ++ blank) = trimEnd text := by
  induction blank using List.reverseRecOn with
  | nil => rw [List.append_nil]
  | append_singleton front c ih =>
    obtain ⟨before, last⟩ := List.forall_mem_append.mp blanks
    rw [← List.append_assoc, trimEnd,
      dropEnd_append_singleton_of_pos _ (last c (List.mem_singleton_self c))]
    exact ih before

section Lines

theorem lastShown_singleton {line : String} (shown : EndsShown line) : LastShown [line] :=
  ⟨[], line, rfl, shown⟩

theorem LastShown.append {lines : List String} (shown : LastShown lines) (before : List String) :
    LastShown (before ++ lines) := by
  obtain ⟨front, last, rfl, ends⟩ := shown
  exact ⟨before ++ front, last, (List.append_assoc _ _ _).symm, ends⟩

theorem LastShown.map_indent {lines : List String} (shown : LastShown lines) :
    LastShown (lines.map indent) := by
  obtain ⟨front, last, rfl, ends⟩ := shown
  exact ⟨front.map Source.indent, Source.indent last, List.map_append, ends.indent⟩

theorem lastShown_flatMap {α : Type} {parts : List α} {lines : α → List String}
    (nonempty : parts ≠ []) (each : ∀ part ∈ parts, LastShown (lines part)) :
    LastShown (parts.flatMap lines) := by
  obtain ⟨front, last, rfl⟩ := (List.eq_nil_or_concat' parts).resolve_left nonempty
  rw [List.flatMap_append, List.flatMap_singleton]
  exact (each last (List.mem_append_right _ (List.mem_singleton_self _))).append _

theorem lastShown_of_getLast? {lines : List String} {last : String}
    (ends : lines.getLast? = some last) (shown : EndsShown last) : LastShown lines := by
  obtain ⟨front, rfl⟩ := List.getLast?_eq_some_iff.mp ends
  exact ⟨front, last, rfl, shown⟩

theorem lastShown_of_forall {lines : List String} (nonempty : lines ≠ [])
    (each : ∀ line ∈ lines, EndsShown line) : LastShown lines := by
  obtain ⟨front, last, rfl⟩ := (List.eq_nil_or_concat' lines).resolve_left nonempty
  exact ⟨front, last, rfl, each last (List.mem_append_right _ (List.mem_singleton_self _))⟩

theorem LastShown.intercalate {lines : List String} (shown : LastShown lines)
    (separator : String) : EndsShown (separator.intercalate lines) := by
  obtain ⟨front, last, rfl, ends⟩ := shown
  by_cases alone : front = []
  · rw [alone, List.nil_append, String.intercalate_singleton]
    exact ends
  · rw [String.intercalate_append_of_ne_nil alone (List.cons_ne_nil _ _),
      String.intercalate_singleton]
    exact ends.append _

theorem LastShown.unlines {lines : List String} (shown : LastShown lines) :
    EndsShown (unlines lines) :=
  shown.intercalate "\n"

end Lines

end JsonBinding.Source
