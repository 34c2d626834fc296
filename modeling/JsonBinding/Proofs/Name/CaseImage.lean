import JsonBinding.Name.Casing
import JsonBinding.Name.Legal
/-!
Upper and lower case of the characters that may stand in an identifier. Every such character is
mapped to one or more of them, and to `_` only if it is `_` (`isImage_toUpper`, `isImage_toLower`);
the two small sigmas are letters as well (`isImage_lowerSigma`). These are facts about the tables:
they are checked for whole runs of code points at a time, and for single code points only where a
row of the case mappings steps over gaps.
-/
namespace JsonBinding.Character

/-- The categories, connecting punctuation apart, whose characters may stand in an identifier. -/
def Category.inWord : Category → Bool
  | .lu | .ll | .lt | .lm | .lo | .nl | .mn | .mc | .nd => true
  | _ => false

/-- Whether a test holds of all values in a range of code points, given the part of the range that
each of them covers. -/
def holdsOn {α : Type} (test : Nat → Nat → α → Bool) (found : α) :
    List (Nat × α) → (low high : Nat) → Bool
  | [], low, high => test low high found
  | (first, value) :: rows, low, high =>
    bif Nat.blt high first then test low high found
    else bif Nat.ble first low then holdsOn test value rows low high
    else test low (first - 1) found && holdsOn test value rows first high

def categoryOn (test : Category → Bool) (low high : Nat) : Bool :=
  holdsOn (fun low high page => holdsOn (fun _ _ found => test found) .cn page low high) []
    categoryPages low high

theorem exists_part_of_holdsOn {α : Type} {test : Nat → Nat → α → Bool} {found : α}
    {rows : List (Nat × α)} {low high n : Nat} (holds : holdsOn test found rows low high = true)
    (lower : low ≤ n) (upper : n ≤ high) :
    ∃ from' to', from' ≤ n ∧ n ≤ to' ∧ test from' to' (valueAt found rows n) = true := by
  induction rows generalizing found low with
  | nil => exact ⟨low, high, lower, upper, holds⟩
  | cons row rest ih =>
    obtain ⟨first, value⟩ := row
    rw [holdsOn] at holds
    rw [valueAt]
    cases beyond : Nat.blt high first with
    | true =>
      have : high < first := Nat.blt_eq.mp beyond
      rw [beyond] at holds
      rw [if_pos (by omega)]
      exact ⟨low, high, lower, upper, holds⟩
    | false =>
      rw [beyond] at holds
      cases inside : Nat.ble first low with
      | true =>
        have : first ≤ low := Nat.ble_eq.mp inside
        rw [inside] at holds
        rw [if_neg (by omega)]
        exact ih holds lower
      | false =>
        rw [inside] at holds
        obtain ⟨earlier, later⟩ := Bool.and_eq_true_iff.mp holds
        by_cases split : n < first
        · rw [if_pos split]
          exact ⟨low, first - 1, lower, by omega, earlier⟩
        · rw [if_neg split]
          exact ih later (by omega)

theorem of_categoryOn {test : Category → Bool} {low high n : Nat}
    (holds : categoryOn test low high = true) (lower : low ≤ n) (upper : n ≤ high) :
    test (categoryAt n) = true := by
  obtain ⟨low', high', lower', upper', page⟩ := exists_part_of_holdsOn holds lower upper
  obtain ⟨_, _, _, _, category⟩ := exists_part_of_holdsOn page lower' upper'
  exact category

def wordOn (low high : Nat) : Bool :=
  (Nat.blt high 0xD800 || Nat.ble 0xE000 low && Nat.blt high 0x110000) &&
    categoryOn Category.inWord low high

/-- Whether a row maps all characters that may stand in an identifier to characters of a word: all
its images are, or none of its code points may stand there, or each image is on its own. -/
def CaseRow.keepsWords (row : CaseRow) : Bool :=
  wordOn row.image (row.map row.last) ||
    categoryOn (fun found => !found.inWord && found != .pc) row.first row.last ||
    (List.range (row.last + 1 - row.first)).all fun k =>
      k % row.stride != 0 || wordOn (row.image + k) (row.image + k)

theorem keepsWords_upperRows : upperRows.all CaseRow.keepsWords = true := by
  decide +kernel

theorem keepsWords_lowerRows : lowerRows.all CaseRow.keepsWords = true := by
  decide +kernel

def expandsToWord (expansion : Nat × List Nat) : Bool :=
  !expansion.2.isEmpty && expansion.2.all fun m => wordOn m m

theorem expandsToWord_upperExpansions : upperExpansions.all expandsToWord = true := by
  decide +kernel

theorem expandsToWord_lowerExpansions : lowerExpansions.all expandsToWord = true := by
  decide +kernel

theorem isIdentifierContinue_iff (c : Char) :
    isIdentifierContinue c = true ↔ (category c).inWord = true ∨ category c = .pc := by
  have underscore : category '_' = .pc := by decide +kernel
  unfold isIdentifierContinue isIdentifierStart
  by_cases same : c = '_'
  · subst same
    simp [underscore]
  · cases category c <;> simp [same, Category.inWord]

/-- A character other than `_` that may stand in an identifier. -/
def IsWordChar (c : Char) : Prop :=
  isIdentifierContinue c = true ∧ c ≠ '_'

theorem toNat_ofNat_of_isValidChar {n : Nat} (valid : n.isValidChar) :
    (Char.ofNat n).toNat = n := by
  unfold Char.ofNat
  rw [dif_pos valid]
  rfl

theorem isWordChar_of_wordOn {low high m : Nat} (word : wordOn low high = true) (lower : low ≤ m)
    (upper : m ≤ high) : IsWordChar (Char.ofNat m) := by
  have underscore : category '_' = .pc := by decide +kernel
  obtain ⟨range, categories⟩ := Bool.and_eq_true_iff.mp word
  have valid : m.isValidChar := by
    simp only [Bool.or_eq_true, Bool.and_eq_true, Nat.blt_eq, Nat.ble_eq] at range
    unfold Nat.isValidChar
    omega
  have inWord : (category (Char.ofNat m)).inWord = true := by
    unfold category
    rw [toNat_ofNat_of_isValidChar valid]
    exact of_categoryOn categories lower upper
  refine ⟨(isIdentifierContinue_iff _).mpr (.inl inWord), fun same => ?_⟩
  rw [same, underscore] at inWord
  cases inWord

/-- What a character of an identifier may become so that the identifier stays one. -/
structure IsImage (c : Char) (image : List Char) : Prop where
  nonempty : image ≠ []
  continues : ∀ d ∈ image, isIdentifierContinue d = true
  clean : c ≠ '_' → '_' ∉ image

theorem IsImage.of_word {c : Char} {image : List Char} (nonempty : image ≠ [])
    (word : ∀ d ∈ image, IsWordChar d) : IsImage c image where
  nonempty := nonempty
  continues d among := (word d among).1
  clean _ among := (word '_' among).2 rfl

theorem isImage_self {c : Char} (continues : isIdentifierContinue c = true) : IsImage c [c] where
  nonempty := List.cons_ne_nil c []
  continues d among := by
    rw [List.mem_singleton.mp among]
    exact continues
  clean other among := other (List.mem_singleton.mp among).symm

theorem isWordChar_of_covers {row : CaseRow} (keeps : row.keepsWords = true) {c : Char}
    (continues : isIdentifierContinue c = true) (covers : row.covers c.toNat = true) :
    IsWordChar (Char.ofNat (row.map c.toNat)) := by
  simp only [CaseRow.covers, Bool.and_eq_true, decide_eq_true_eq, beq_iff_eq] at covers
  obtain ⟨⟨lower, upper⟩, stride⟩ := covers
  simp only [CaseRow.keepsWords, Bool.or_eq_true] at keeps
  rcases keeps with (images | sources) | points
  · refine isWordChar_of_wordOn images ?_ ?_ <;> unfold CaseRow.map <;> omega
  · have never := of_categoryOn sources lower upper
    simp only [Bool.and_eq_true, bne_iff_ne, Bool.not_eq_true'] at never
    rcases (isIdentifierContinue_iff c).mp continues with word | connects
    · exact absurd (never.1.symm.trans word) Bool.false_ne_true
    · exact absurd connects never.2
  · have listed : c.toNat - row.first ∈ List.range (row.last + 1 - row.first) :=
      List.mem_range.mpr (by omega)
    have point := List.all_eq_true.mp points _ listed
    simp only [stride, bne_self_eq_false, Bool.false_or] at point
    exact isWordChar_of_wordOn point (Nat.le_refl _) (Nat.le_refl _)

theorem isImage_mapCase {expansions : List (Nat × List Nat)} {rows : List CaseRow}
    (expand : expansions.all expandsToWord = true) (keep : rows.all CaseRow.keepsWords = true)
    {c : Char} (continues : isIdentifierContinue c = true) :
    IsImage c ((mapCase expansions rows c.toNat).map Char.ofNat) := by
  unfold mapCase
  split
  · next image found =>
    obtain ⟨before, after, same, _⟩ := List.lookup_eq_some_iff.mp found
    have listed : (c.toNat, image) ∈ expansions := by
      rw [same]
      exact List.mem_append_right before List.mem_cons_self
    obtain ⟨nonempty, words⟩ := Bool.and_eq_true_iff.mp (List.all_eq_true.mp expand _ listed)
    refine .of_word (by simpa using nonempty) fun d among => ?_
    obtain ⟨m, hm, rfl⟩ := List.mem_map.mp among
    exact isWordChar_of_wordOn (List.all_eq_true.mp words m hm) (Nat.le_refl m) (Nat.le_refl m)
  · split
    · next row found =>
      have keeps := List.all_eq_true.mp keep row (List.mem_of_find?_eq_some found)
      have covers := List.find?_some found
      have word := isWordChar_of_covers keeps continues covers
      refine .of_word (List.cons_ne_nil _ _) fun d among => ?_
      rw [List.mem_singleton.mp among]
      exact word
    · rw [List.map_singleton, Char.ofNat_toNat]
      exact isImage_self continues

theorem isImage_toUpper {c : Char} (continues : isIdentifierContinue c = true) :
    IsImage c (toUpper c) :=
  isImage_mapCase expandsToWord_upperExpansions keepsWords_upperRows continues

theorem isImage_toLower {c : Char} (continues : isIdentifierContinue c = true) :
    IsImage c (toLower c) :=
  isImage_mapCase expandsToWord_lowerExpansions keepsWords_lowerRows continues

theorem isImage_lowerSigma (afterCased : Bool) (following : List Char) (c : Char) :
    IsImage c [lowerSigma afterCased following] := by
  have final : IsWordChar 'ς' := ⟨by decide +kernel, by decide⟩
  have medial : IsWordChar 'σ' := ⟨by decide +kernel, by decide⟩
  refine .of_word (List.cons_ne_nil _ _) fun d among => ?_
  rw [List.mem_singleton.mp among]
  unfold lowerSigma
  split
  · exact final
  · exact medial

end JsonBinding.Character
