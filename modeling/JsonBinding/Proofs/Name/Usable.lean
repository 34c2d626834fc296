import JsonBinding.Name.Style
import JsonBinding.Proofs.Name.CaseImage
import JsonBinding.Proofs.Name.Legalizing
import JsonBinding.Proofs.Text.Trim
import Mathlib.Data.List.Forall2
/-!
Names made of text can be used as identifiers. The words that a name is put together from are solid:
they have characters of identifiers only and no `_` at either end. Legalizing makes words solid,
bringing them into a case keeps them solid, and so does joining them (`Solid.append`), whichever
way a text is split into words. What is left to the last step is the first character
(`usable_makeName`).
-/
namespace JsonBinding

open Character

/-- A text of characters of identifiers that neither starts nor ends with `_`. -/
structure Solid (text : List Char) : Prop where
  continues : ∀ c ∈ text, isIdentifierContinue c = true
  first : ∃ c rest, text = c :: rest ∧ c ≠ '_'
  last : ∃ front c, text = front ++ [c] ∧ c ≠ '_'

theorem Solid.append {a b between : List Char} (ha : Solid a) (hb : Solid b)
    (joins : ∀ c ∈ between, isIdentifierContinue c = true) : Solid (a ++ between ++ b) := by
  obtain ⟨c, rest, startsA, first⟩ := ha.first
  obtain ⟨front, d, endsB, last⟩ := hb.last
  refine ⟨?_, ⟨c, rest ++ between ++ b, ?_, first⟩, ⟨a ++ between ++ front, d, ?_, last⟩⟩
  · intro e among
    simp only [List.mem_append] at among
    rcases among with (inA | inBetween) | inB
    · exact ha.continues e inA
    · exact joins e inBetween
    · exact hb.continues e inB
  · rw [startsA]
    rfl
  · rw [endsB, List.append_assoc]
    simp only [List.append_assoc]

section Casing

variable {text : List Char} {pieces : List (List Char)}

theorem continues_flatten (images : List.Forall₂ IsImage text pieces) :
    ∀ d ∈ pieces.flatten, isIdentifierContinue d = true := by
  induction images with
  | nil =>
    intro d among
    cases among
  | cons image _ ih =>
    intro d among
    rcases List.mem_append.mp among with here | later
    · exact image.continues d here
    · exact ih d later

theorem Solid.flatten (solid : Solid text) (images : List.Forall₂ IsImage text pieces) :
    Solid pieces.flatten := by
  refine ⟨continues_flatten images, ?_, ?_⟩
  · obtain ⟨c, rest, rfl, first⟩ := solid.first
    cases images with
    | @cons _ piece _ others image _ =>
      obtain ⟨d, tail, rfl⟩ := List.exists_cons_of_ne_nil image.nonempty
      refine ⟨d, tail ++ others.flatten, rfl, fun same => ?_⟩
      exact image.clean first (same ▸ List.mem_cons_self)
  · obtain ⟨front, c, rfl, last⟩ := solid.last
    have reversed := List.forall₂_reverse_iff.mpr images
    rw [List.reverse_append, List.reverse_singleton, List.singleton_append] at reversed
    generalize turned : pieces.reverse = backwards at reversed
    cases reversed with
    | @cons _ piece _ others image _ =>
      rw [List.reverse_eq_iff, List.reverse_cons] at turned
      obtain ⟨head, d, rfl⟩ := (List.eq_nil_or_concat' piece).resolve_left image.nonempty
      refine ⟨others.reverse.flatten ++ head, d, ?_, fun same => ?_⟩
      · rw [turned, List.flatten_append, List.flatten_singleton, List.append_assoc]
      · exact image.clean last (same ▸ List.mem_append_right head List.mem_cons_self)

theorem exists_images_lowerAfter (continues : ∀ c ∈ text, isIdentifierContinue c = true)
    (afterCased : Bool) :
    ∃ pieces, List.Forall₂ IsImage text pieces ∧ lowerAfter afterCased text = pieces.flatten := by
  induction text generalizing afterCased with
  | nil => exact ⟨[], .nil, rfl⟩
  | cons c following ih =>
    obtain ⟨pieces, images, same⟩ := ih (fun d among => continues d (List.mem_cons_of_mem c among))
      (if isCaseIgnorable c then afterCased else isCased c)
    have image : IsImage c
        (if c = 'Σ' then [lowerSigma afterCased following] else toLower c) := by
      split
      · exact isImage_lowerSigma afterCased following c
      · exact isImage_toLower (continues c List.mem_cons_self)
    exact ⟨_ :: pieces, .cons image images, by rw [lowerAfter, same, List.flatten_cons]⟩

theorem exists_images_uppercase (continues : ∀ c ∈ text, isIdentifierContinue c = true) :
    ∃ pieces, List.Forall₂ IsImage text pieces ∧ uppercase text = pieces.flatten := by
  refine ⟨text.map toUpper, ?_, List.flatMap_def⟩
  rw [List.forall₂_map_right_iff, List.forall₂_same]
  exact fun c among => isImage_toUpper (continues c among)

theorem exists_images_applyChars (casing : Casing)
    (continues : ∀ c ∈ text, isIdentifierContinue c = true) :
    ∃ pieces, List.Forall₂ IsImage text pieces ∧ casing.applyChars text = pieces.flatten := by
  cases casing with
  | lower => exact exists_images_lowerAfter continues false
  | upper => exact exists_images_uppercase continues
  | capitalized =>
    cases text with
    | nil => exact ⟨[], .nil, rfl⟩
    | cons first rest =>
      obtain ⟨pieces, images, same⟩ := exists_images_lowerAfter
        (fun d among => continues d (List.mem_cons_of_mem first among)) false
      have image := isImage_toUpper (continues first List.mem_cons_self)
      refine ⟨toUpper first :: pieces, .cons image images, ?_⟩
      rw [Casing.applyChars, lowercase, same, List.flatten_cons]

theorem Solid.applyChars (solid : Solid text) (casing : Casing) :
    Solid (casing.applyChars text) := by
  obtain ⟨pieces, images, same⟩ := exists_images_applyChars casing solid.continues
  rw [same]
  exact solid.flatten images

end Casing

section Legalizing

theorem continues_underscore : isIdentifierContinue '_' = true :=
  isIdentifierContinue_of_start rfl

theorem continues_legalizeFrom (inRun : Bool) (text : List Char) :
    ∀ d ∈ legalizeFrom legalForm? (.replace '_') inRun text, isIdentifierContinue d = true := by
  intro d among
  rcases eq_or_exists_of_mem_legalizeFrom among with rfl | ⟨c, _, form, legal, inside⟩
  · exact continues_underscore
  · exact (legalForm?_eq_some_iff.mp legal).2.2 d inside

theorem solid_trim {text : List Char} (continues : ∀ c ∈ text, isIdentifierContinue c = true)
    (left : Text.trim (· = '_') text ≠ []) : Solid (Text.trim (· = '_') text) := by
  refine ⟨fun c among => continues c ((Text.trim_isInfix _ _).subset among), ?_, ?_⟩
  · obtain ⟨c, rest, starts⟩ := List.exists_cons_of_ne_nil left
    have first := Text.head?_trim (congrArg List.head? starts)
    exact ⟨c, rest, starts, of_decide_eq_false first⟩
  · obtain ⟨front, c, ends, other⟩ := Text.exists_last_dropEnd left
    exact ⟨front, c, ends, of_decide_eq_false other⟩

end Legalizing

theorem solid_of_mem_legalizeWords {words : List Word} {word : Word}
    (among : word ∈ legalizeWords words) : Solid word.text.toList := by
  obtain ⟨listed, nonempty⟩ := List.mem_filter.mp among
  obtain ⟨original, _, rfl⟩ := List.mem_map.mp listed
  have left : legalizeChars original.text.toList ≠ [] := by
    intro empty
    rw [legalizeWord, empty] at nonempty
    cases nonempty
  rw [legalizeWord, String.toList_ofList]
  exact solid_trim (continues_legalizeFrom false _) left

theorem solid_intercalate {separator : String} {parts : List String}
    (joins : ∀ c ∈ separator.toList, isIdentifierContinue c = true)
    (solid : ∀ part ∈ parts, Solid part.toList) (nonempty : parts ≠ []) :
    Solid (separator.intercalate parts).toList := by
  induction parts with
  | nil => exact absurd rfl nonempty
  | cons part rest ih =>
    have first := solid part List.mem_cons_self
    by_cases last : rest = []
    · rw [last, String.intercalate_singleton]
      exact first
    · have others := ih (fun other among => solid other (List.mem_cons_of_mem part among)) last
      rw [String.intercalate_cons_of_ne_nil last, String.toList_append, String.toList_append]
      exact first.append others joins

theorem solid_combineWords {words : List Word} {separator : String} (casing : Casing)
    (acronymCasing : Option Casing)
    (joins : ∀ c ∈ separator.toList, isIdentifierContinue c = true)
    (solid : ∀ word ∈ words, Solid word.text.toList) (nonempty : words ≠ []) :
    Solid (combineWords words casing acronymCasing separator).toList := by
  refine solid_intercalate joins (fun part among => ?_) (mt List.map_eq_nil_iff.mp nonempty)
  obtain ⟨word, listed, rfl⟩ := List.mem_map.mp among
  rw [Casing.apply, String.toList_ofList]
  exact (solid word listed).applyChars _

theorem solid_combine {words : List Word} (style : NameStyle)
    (solid : ∀ word ∈ words, Solid word.text.toList) (nonempty : words ≠ []) :
    Solid (style.combine words).toList := by
  have underscore : ∀ c ∈ "_".toList, isIdentifierContinue c = true := by
    intro c among
    rw [List.mem_singleton.mp among]
    exact continues_underscore
  cases style with
  | type =>
    refine solid_combineWords _ _ (fun c among => ?_) solid nonempty
    cases among
  | property => exact solid_combineWords _ _ underscore solid nonempty
  | enumCase => exact solid_combineWords _ _ underscore solid nonempty

/-- A name that can be written wherever an identifier can, in the body of a class as well, where two
leading `_` would change it. -/
structure IsUsableName (name : String) : Prop where
  nonempty : name ≠ ""
  starts : ∃ first rest, name.toList = first :: rest ∧ isIdentifierStart first = true
  continues : ∀ c ∈ name.toList, isIdentifierContinue c = true
  unmangled : ¬ ['_', '_'] <+: name.toList
  ends : ¬ ['_'] <:+ name.toList

theorem not_suffix_underscore {front : List Char} {c : Char} (last : c ≠ '_') :
    ¬ ['_'] <:+ front ++ [c] := by
  rintro ⟨before, same⟩
  have alike := (List.append_inj' same rfl).2
  exact last (List.cons.inj alike).1.symm

theorem Solid.usable {name : String} (solid : Solid name.toList)
    (starts : ∃ first rest, name.toList = first :: rest ∧ isIdentifierStart first = true) :
    IsUsableName name := by
  obtain ⟨c, tail, begins, first⟩ := solid.first
  obtain ⟨front, d, finishes, last⟩ := solid.last
  refine ⟨?_, starts, solid.continues, ?_, finishes ▸ not_suffix_underscore last⟩
  · rintro rfl
    cases begins
  · rintro ⟨after, same⟩
    rw [begins] at same
    exact first (List.cons.inj same).1.symm

theorem Solid.usable_underscore {name : String} (solid : Solid name.toList) :
    IsUsableName ("_" ++ name) := by
  obtain ⟨c, tail, begins, first⟩ := solid.first
  obtain ⟨front, d, finishes, last⟩ := solid.last
  have written : ("_" ++ name).toList = '_' :: name.toList := String.toList_append
  refine ⟨?_, ⟨'_', name.toList, written, rfl⟩, ?_, ?_, ?_⟩
  · intro empty
    rw [empty] at written
    cases written
  · intro e among
    rw [written] at among
    rcases List.mem_cons.mp among with rfl | inside
    · exact continues_underscore
    · exact solid.continues e inside
  · rintro ⟨after, same⟩
    rw [written, begins] at same
    exact first (List.cons.inj (List.cons.inj same).2).1.symm
  · rw [written, finishes, ← List.cons_append]
    exact not_suffix_underscore last

theorem usable_fallback (style : NameStyle) : IsUsableName style.fallback := by
  have solid : Solid style.fallback.toList := by
    have letters : style.fallback.toList.all isIdentifierContinue = true := by
      cases style <;> decide +kernel
    refine ⟨List.all_eq_true.mp letters, ?_, ?_⟩
    · cases style <;> exact ⟨_, _, rfl, by decide⟩
    · cases style with
      | type => exact ⟨['E', 'm', 'p', 't'], 'y', rfl, by decide⟩
      | property => exact ⟨['e', 'm', 'p', 't'], 'y', rfl, by decide⟩
      | enumCase => exact ⟨['E', 'M', 'P', 'T'], 'Y', rfl, by decide⟩
  refine solid.usable ?_
  cases style <;> exact ⟨_, _, rfl, by decide +kernel⟩

theorem usable_styleWords {words : List Word} (solid : ∀ word ∈ words, Solid word.text.toList)
    (style : NameStyle) : IsUsableName (styleWords words style) := by
  by_cases nonempty : words = []
  · rw [nonempty, styleWords_nil]
    exact usable_fallback style
  · have name := solid_combine style solid nonempty
    unfold styleWords
    obtain ⟨c, rest, begins, _⟩ := name.first
    dsimp only
    rw [begins]
    dsimp only
    split
    · next starts => exact name.usable ⟨c, rest, begins, starts⟩
    · exact name.usable_underscore

/-- Whatever the text, the style and the way in which the text is split into words, the name that
is made of it can be used. -/
theorem usable_makeName :
    (∀ (split : String → List Word) text style, IsUsableName (nameOfWords (split text) style)) ∧
      ∀ text style, IsUsableName (makeName text style) := by
  have usable : ∀ words style, IsUsableName (nameOfWords words style) := fun words style =>
    usable_styleWords (fun _ among => solid_of_mem_legalizeWords among) style
  exact ⟨fun split text style => usable (split text) style, fun text style => usable _ style⟩

end JsonBinding
