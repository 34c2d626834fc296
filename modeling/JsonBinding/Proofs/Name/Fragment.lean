import JsonBinding.Proofs.Name.Legalizing
import JsonBinding.Proofs.Name.NormalForm
import JsonBinding.Proofs.Name.Usable
import JsonBinding.Proofs.Text.Trim
/-!
Legalized words are fragments of identifiers: their characters may stand in one and are their own
normal forms, and no `_` stands at either end (`isFragment_legalizeChars`). Fragments are just the
words that legalizing leaves as they are (`legalizeChars_eq_self_iff`), so that a second time
changes nothing (`legalizeWord_is_fragment`).
-/
namespace JsonBinding

open Character

/-- Text that can stand in an identifier as it is, and shows where it starts and ends. -/
structure IsFragment (text : List Char) : Prop where
  continues : ∀ c ∈ text, isIdentifierContinue c = true
  settled : ∀ c ∈ text, compatibilityForm c = [c]
  starts : text.head? ≠ some '_'
  ends : text.getLast? ≠ some '_'

theorem legalForm?_eq_self_iff {c : Char} :
    legalForm? c = some [c] ↔ isIdentifierContinue c = true ∧ compatibilityForm c = [c] := by
  rw [legalForm?_eq_some_iff, and_comm]
  simp

theorem legalForm?_underscore : legalForm? '_' = some ['_'] := by
  decide +kernel

theorem legalForm?_of_mem {c d : Char} {form : List Char} (legal : legalForm? c = some form)
    (among : d ∈ form) : legalForm? d = some [d] := by
  obtain ⟨rfl, -, continues⟩ := legalForm?_eq_some_iff.mp legal
  rw [legalForm?_eq_self_iff]
  exact ⟨continues d among, compatibilityForm_of_mem among⟩

theorem legalForm?_of_mem_legalizeFrom {inRun : Bool} {text : List Char} {d : Char}
    (among : d ∈ legalizeFrom legalForm? (.replace '_') inRun text) : legalForm? d = some [d] := by
  rcases eq_or_exists_of_mem_legalizeFrom among with rfl | ⟨c, _, form, legal, inside⟩
  · exact legalForm?_underscore
  · exact legalForm?_of_mem legal inside

theorem isFragment_legalizeChars (text : List Char) : IsFragment (legalizeChars text) := by
  have own : ∀ c ∈ legalizeChars text, legalForm? c = some [c] := fun c among =>
    legalForm?_of_mem_legalizeFrom ((Text.trim_isInfix _ _).subset among)
  constructor
  · intro c among
    exact (legalForm?_eq_self_iff.mp (own c among)).1
  · intro c among
    exact (legalForm?_eq_self_iff.mp (own c among)).2
  · intro starts
    cases Text.head?_trim starts
  · intro ends
    cases Text.getLast?_trim ends

theorem IsFragment.legalizeChars_eq {text : List Char} (fragment : IsFragment text) :
    legalizeChars text = text := by
  have own : ∀ c ∈ text, legalForm? c = some [c] := fun c among =>
    legalForm?_eq_self_iff.mpr ⟨fragment.continues c among, fragment.settled c among⟩
  rw [legalizeChars, legalizeCharacters, legalizeFrom_eq_self own]
  apply Text.trim_eq_self
  · intro c starts
    exact decide_eq_false fun same => fragment.starts (same ▸ starts)
  · intro c ends
    exact decide_eq_false fun same => fragment.ends (same ▸ ends)

theorem legalizeChars_eq_self_iff {text : List Char} :
    legalizeChars text = text ↔ IsFragment text :=
  ⟨fun same => same ▸ isFragment_legalizeChars text, IsFragment.legalizeChars_eq⟩

/-- What becomes of a word can stand in an identifier, has no `_` at either end, and stays as it is
when it is made legal again. The words that stay are those which are so from the start and whose
characters are their own normal forms. -/
theorem legalizeWord_is_fragment (word : String) :
    (∀ c ∈ (legalizeWord word).toList, isIdentifierContinue c = true) ∧
      (legalizeWord word).toList.head? ≠ some '_' ∧
      (legalizeWord word).toList.getLast? ≠ some '_' ∧
      legalizeWord (legalizeWord word) = legalizeWord word ∧
      (legalizeWord word = word ↔
        (∀ c ∈ word.toList, isIdentifierContinue c = true ∧ compatibilityForm c = [c]) ∧
          word.toList.head? ≠ some '_' ∧ word.toList.getLast? ≠ some '_') := by
  have fragment := isFragment_legalizeChars word.toList
  have written : (legalizeWord word).toList = legalizeChars word.toList := String.toList_ofList
  have kept : legalizeWord word = word ↔ IsFragment word.toList := by
    rw [← legalizeChars_eq_self_iff, ← written, String.toList_inj]
  rw [written]
  refine ⟨fragment.continues, fragment.starts, fragment.ends, ?_, ?_⟩
  · rw [legalizeWord, written, fragment.legalizeChars_eq, legalizeWord]
  · rw [kept]
    constructor
    · intro own
      exact ⟨fun c among => ⟨own.continues c among, own.settled c among⟩, own.starts, own.ends⟩
    · rintro ⟨own, starts, ends⟩
      exact ⟨fun c among => (own c among).1, fun c among => (own c among).2, starts, ends⟩

end JsonBinding
