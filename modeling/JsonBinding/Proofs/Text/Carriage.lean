import JsonBinding.Text.Lines
/-!
Texts without carriage returns. Text that is put together has none iff its parts have none, be they
put one behind the other, between separators, or under one another.
-/
namespace JsonBinding.Text

/-- A text without carriage returns. -/
def CarriageFree (text : String) : Prop :=
  '\r' ∉ text.toList

instance (text : String) : Decidable (CarriageFree text) :=
  inferInstanceAs (Decidable ('\r' ∉ text.toList))

theorem carriageFree_append {a b : String} :
    CarriageFree (a ++ b) ↔ CarriageFree a ∧ CarriageFree b := by
  simp only [CarriageFree, String.toList_append, List.mem_append, not_or]

theorem CarriageFree.append {a b : String} (ha : CarriageFree a) (hb : CarriageFree b) :
    CarriageFree (a ++ b) :=
  carriageFree_append.mpr ⟨ha, hb⟩

theorem CarriageFree.between {before text after : String} (free : CarriageFree text)
    (first : CarriageFree before) (last : CarriageFree after) :
    CarriageFree (before ++ text ++ after) :=
  (first.append free).append last

theorem carriageFree_intercalate {separator : String} (separates : CarriageFree separator)
    {parts : List String} :
    CarriageFree (separator.intercalate parts) ↔ ∀ part ∈ parts, CarriageFree part := by
  induction parts with
  | nil => exact iff_of_true List.not_mem_nil nofun
  | cons part rest ih =>
    rw [List.forall_mem_cons]
    by_cases last : rest = []
    · rw [last, String.intercalate_singleton]
      exact (and_iff_left nofun).symm
    · rw [String.intercalate_cons_of_ne_nil last, carriageFree_append, carriageFree_append, ih]
      exact and_congr_left fun _ => and_iff_left separates

theorem carriageFree_unlines {lines : List String} :
    CarriageFree (unlines lines) ↔ ∀ line ∈ lines, CarriageFree line :=
  carriageFree_intercalate (by decide)

theorem infix_intercalate {separator part : String} {parts : List String} (among : part ∈ parts) :
    part.toList <:+: (separator.intercalate parts).toList := by
  obtain ⟨before, after, rfl⟩ := List.append_of_mem among
  have front : part.toList <:+: (separator.intercalate (part :: after)).toList := by
    by_cases last : after = []
    · have single : separator.intercalate (part :: after) = part := by
        rw [last, String.intercalate_singleton]
      exact single.symm ▸ List.infix_rfl
    · rw [String.intercalate_cons_of_ne_nil last, String.toList_append, String.toList_append,
        List.append_assoc]
      exact (List.prefix_append _ _).isInfix
  by_cases first : before = []
  · rw [first]
    exact front
  · rw [String.intercalate_append_of_ne_nil first (List.cons_ne_nil _ _), String.toList_append]
    exact front.trans (List.suffix_append _ _).isInfix

theorem carriageFree_join {parts : List String} (free : ∀ part ∈ parts, CarriageFree part) :
    CarriageFree (String.join parts) := by
  rw [CarriageFree, String.toList_join, List.mem_flatMap]
  rintro ⟨part, among, inside⟩
  exact free part among inside

end JsonBinding.Text
