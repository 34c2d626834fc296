/-!
Removing characters at the ends of a text. What is removed are the longest runs at either end whose
characters all have a given property; nothing in between changes.
-/
namespace JsonBinding.Text

variable {α : Type}

/-- Removes the longest run at the end whose members have the property. -/
def dropEnd (p : α → Bool) (text : List α) : List α :=
  (text.reverse.dropWhile p).reverse

/-- Removes the longest runs at both ends whose members have the property. -/
def trim (p : α → Bool) (text : List α) : List α :=
  dropEnd p (text.dropWhile p)

@[simp] theorem dropEnd_nil (p : α → Bool) : dropEnd p [] = [] := rfl

theorem dropEnd_append_singleton_of_neg {p : α → Bool} {c : α} (text : List α) (h : p c = false) :
    dropEnd p (text ++ [c]) = text ++ [c] := by
  simp [dropEnd, h]

theorem dropEnd_append_singleton_of_pos {p : α → Bool} {c : α} (text : List α) (h : p c = true) :
    dropEnd p (text ++ [c]) = dropEnd p text := by
  simp [dropEnd, h]

theorem dropEnd_prefix (p : α → Bool) (text : List α) : dropEnd p text <+: text := by
  have h : text.reverse.dropWhile p <:+ text.reverse := List.dropWhile_suffix p
  simpa [dropEnd] using List.reverse_prefix.mpr h

/-- What is left ends without the property. -/
theorem exists_last_dropEnd {p : α → Bool} {text : List α} (left : dropEnd p text ≠ []) :
    ∃ front c, dropEnd p text = front ++ [c] ∧ p c = false := by
  have stops := List.head?_dropWhile_not p text.reverse
  unfold dropEnd at left ⊢
  cases kept : text.reverse.dropWhile p with
  | nil => exact absurd (congrArg List.reverse kept) left
  | cons c rest =>
    rw [kept] at stops
    exact ⟨rest.reverse, c, List.reverse_cons, by simpa using stops⟩

theorem prefix_dropEnd {p : α → Bool} {c : α} (front back : List α) (h : p c = false) :
    front ++ [c] <+: dropEnd p (front ++ c :: back) := by
  have stays : (c :: front.reverse).dropWhile p = c :: front.reverse :=
    List.dropWhile_cons_of_neg (by simp [h])
  have kept : c :: front.reverse <:+ (back.reverse ++ c :: front.reverse).dropWhile p := by
    rw [List.dropWhile_append, stays]
    split
    · exact List.suffix_rfl
    · exact List.suffix_append _ _
  simpa [dropEnd] using List.reverse_prefix.mpr kept

end JsonBinding.Text
