import JsonBinding.Text.Trim
import Mathlib.Data.List.Basic
import Mathlib.Data.List.TakeWhile
/-!
Trimmed text. What trimming leaves neither starts nor ends with the property (`head?_trim`,
`getLast?_trim`), and text of this kind it does not change (`trim_eq_self`). It takes nothing from
between two members without the property, so that a run of members with it is found in the trimmed
text iff it stands between two such members (`infix_trim_iff`).
-/
namespace JsonBinding.Text

variable {α : Type} {p : α → Bool} {text : List α} {c : α}

theorem trim_isInfix (p : α → Bool) (text : List α) : trim p text <:+: text := by
  have front : trim p text <+: text.dropWhile p := dropEnd_prefix p _
  exact front.isInfix.trans (List.dropWhile_suffix p).isInfix

theorem head?_trim (starts : (trim p text).head? = some c) : p c = false := by
  obtain ⟨rest, first⟩ := List.head?_eq_some_iff.mp starts
  obtain ⟨tail, whole⟩ := dropEnd_prefix p (text.dropWhile p)
  have stops := List.head?_dropWhile_not p text
  rw [← whole, ← trim, first] at stops
  simpa using stops

theorem getLast?_trim (ends : (trim p text).getLast? = some c) : p c = false := by
  have left : trim p text ≠ [] := by
    intro empty
    rw [empty] at ends
    cases ends
  obtain ⟨front, d, last, other⟩ := exists_last_dropEnd left
  rw [trim, last, List.getLast?_concat] at ends
  exact Option.some.inj ends ▸ other

theorem trim_eq_self (starts : ∀ c, text.head? = some c → p c = false)
    (ends : ∀ c, text.getLast? = some c → p c = false) : trim p text = text := by
  have start : text.dropWhile p = text := by
    cases text with
    | nil => rfl
    | cons c rest => exact List.dropWhile_cons_of_neg (by simp [starts c rfl])
  rw [trim, start]
  rcases List.eq_nil_or_concat' text with rfl | ⟨front, c, rfl⟩
  · rfl
  · exact dropEnd_append_singleton_of_neg front (ends c List.getLast?_concat)

section Between

variable {front back : List α}

theorem dropWhile_append_of_exists (stops : ∃ c ∈ front, p c = false) (back : List α) :
    (front ++ back).dropWhile p = front.dropWhile p ++ back := by
  obtain ⟨c, among, other⟩ := stops
  rw [List.dropWhile_append, if_neg]
  rw [List.isEmpty_iff, List.dropWhile_eq_nil_iff]
  intro all
  exact absurd (all c among) (by simp [other])

theorem dropEnd_append_of_exists (front : List α) (stops : ∃ c ∈ back, p c = false) :
    dropEnd p (front ++ back) = front ++ dropEnd p back := by
  have turned : ∃ c ∈ back.reverse, p c = false := by simpa using stops
  rw [dropEnd, List.reverse_append, dropWhile_append_of_exists turned, List.reverse_append,
    List.reverse_reverse, dropEnd]

theorem trim_append (starts : ∃ c ∈ front, p c = false) (ends : ∃ c ∈ back, p c = false)
    (mid : List α) :
    trim p (front ++ mid ++ back) = front.dropWhile p ++ mid ++ dropEnd p back := by
  rw [trim, List.append_assoc, dropWhile_append_of_exists starts, ← List.append_assoc,
    dropEnd_append_of_exists _ ends]

variable {run u v : List α}

/-- What is left starts without the property, so a run of members with it is not its first part. -/
theorem exists_before_run (within : ∀ c ∈ run, p c = true) (nonempty : run ≠ [])
    (left : trim p text = u ++ run ++ v) : ∃ c ∈ u, p c = false := by
  obtain ⟨c, rest, rfl⟩ := List.exists_cons_of_ne_nil nonempty
  have first := congrArg List.head? left
  cases u with
  | nil =>
    have other : p c = false := head?_trim first
    rw [within c List.mem_cons_self] at other
    cases other
  | cons d u => exact ⟨d, List.mem_cons_self, head?_trim first⟩

theorem exists_behind_run (within : ∀ c ∈ run, p c = true) (nonempty : run ≠ [])
    (left : trim p text = u ++ run ++ v) : ∃ c ∈ v, p c = false := by
  obtain ⟨rest, c, rfl⟩ := (List.eq_nil_or_concat' run).resolve_left nonempty
  rcases List.eq_nil_or_concat' v with rfl | ⟨v, d, rfl⟩
  · rw [List.append_nil, ← List.append_assoc] at left
    have other : p c = false := getLast?_trim (left ▸ List.getLast?_concat)
    rw [within c (List.mem_append_right rest List.mem_cons_self)] at other
    cases other
  · rw [← List.append_assoc] at left
    exact ⟨d, List.mem_append_right v List.mem_cons_self,
      getLast?_trim (left ▸ List.getLast?_concat)⟩

/-- A run that is left stands between two members that end the runs at the ends of the text. -/
theorem infix_trim_iff (within : ∀ c ∈ run, p c = true) (nonempty : run ≠ []) :
    run <:+: trim p text ↔
      ∃ front back, text = front ++ run ++ back ∧ (∃ c ∈ front, p c = false) ∧
        ∃ c ∈ back, p c = false := by
  constructor
  · rintro ⟨u, v, left⟩
    obtain ⟨c, inFront, first⟩ := exists_before_run within nonempty left.symm
    obtain ⟨d, inBack, last⟩ := exists_behind_run within nonempty left.symm
    obtain ⟨before, after, whole⟩ := trim_isInfix p text
    refine ⟨before ++ u, v ++ after, ?_, ⟨c, List.mem_append_right before inFront, first⟩,
      ⟨d, List.mem_append_left after inBack, last⟩⟩
    rw [← whole, ← left]
    simp only [List.append_assoc]
  · rintro ⟨front, back, rfl, starts, ends⟩
    rw [trim_append starts ends]
    exact List.infix_append _ _ _

end Between

end JsonBinding.Text
