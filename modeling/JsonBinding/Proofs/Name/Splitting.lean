import JsonBinding.Name.Word
/-!
What the words of a text are. Reading a text leaves words that are finished and one that may still
grow (`exists_pieces_append`). The next character separates, begins a word, or goes to the end of
the one that grows (`pieces_cons`); so a word ends between two neighbours just where their case
tells so, a word ends at every separator, and no character is lost (`splits_split`).
-/
namespace JsonBinding

open Character

namespace Word

/-- The number of the word that holds the character at the given place, all words being written one
behind the other. -/
def wordAt : List (List Char) → Nat → Nat
  | [], _ => 0
  | word :: rest, place =>
    if place < word.length then 0 else wordAt rest (place - word.length) + 1

/-- The place of a character of a text, given by its index, among the characters of all words. -/
def placeOf (text : List Char) (index : Nat) : Nat :=
  (text.take index).countP (!isSeparator ·)

/-- The given words are the words of a text. -/
structure Splits (text : String) (words : List Word) : Prop where
  nonempty : ∀ word ∈ words, word.text ≠ ""
  unseparated : ∀ word ∈ words, ∀ c ∈ word.text.toList, isSeparator c = false
  complete : words.flatMap (·.text.toList) = text.toList.filter (!isSeparator ·)
  /-- A word ends between two neighbours iff their case tells so. -/
  borders : ∀ i previous c, text.toList[i]? = some previous → text.toList[i + 1]? = some c →
    isSeparator previous = false → isSeparator c = false →
    (wordAt (words.map (·.text.toList)) (placeOf text.toList i) ≠
        wordAt (words.map (·.text.toList)) (placeOf text.toList (i + 1)) ↔
      isUppercase c ∧ (isLowercase previous ∨ isNumeric previous ∨
        isUppercase previous ∧ ∃ next, text.toList[i + 2]? = some next ∧ isLowercase next))
  /-- A word ends at every separator. -/
  gaps : ∀ i j k a b c, i < j → j < k → text.toList[i]? = some a → text.toList[j]? = some b →
    text.toList[k]? = some c → isSeparator a = false → isSeparator b → isSeparator c = false →
    wordAt (words.map (·.text.toList)) (placeOf text.toList i) ≠
      wordAt (words.map (·.text.toList)) (placeOf text.toList k)
  /-- Words go by their own case, unless they all would be acronyms. -/
  acronyms : words.map (·.isAcronym) =
    if ∀ word ∈ words, (ofText word.text).isAcronym then words.map fun _ => false
    else words.map fun word => (ofText word.text).isAcronym
  telling : words ≠ [] → ∃ word ∈ words, word.isAcronym = false

section Places

theorem wordAt_cons_of_lt {word : List Char} (rest : List (List Char)) {place : Nat}
    (inside : place < word.length) : wordAt (word :: rest) place = 0 :=
  if_pos inside

theorem wordAt_append (done later : List (List Char)) (place : Nat) :
    wordAt (done ++ later) (done.flatten.length + place) = done.length + wordAt later place := by
  induction done with
  | nil => simp
  | cons word rest ih =>
    have behind : ¬ (word :: rest).flatten.length + place < word.length := by
      simp only [List.flatten_cons, List.length_append]
      omega
    have shifted : (word :: rest).flatten.length + place - word.length =
        rest.flatten.length + place := by
      simp only [List.flatten_cons, List.length_append]
      omega
    rw [List.cons_append, wordAt, if_neg behind, shifted, ih, List.length_cons]
    omega

theorem wordAt_append_lt {done : List (List Char)} (later : List (List Char)) {place : Nat}
    (inside : place < done.flatten.length) : wordAt (done ++ later) place < done.length := by
  induction done generalizing place with
  | nil => exact absurd inside (Nat.not_lt_zero place)
  | cons word rest ih =>
    rw [List.cons_append, wordAt, List.length_cons]
    split
    · exact Nat.zero_lt_succ _
    · next behind =>
      rw [List.flatten_cons, List.length_append] at inside
      exact Nat.succ_lt_succ (ih (by omega))

end Places

section Pieces

theorem flatten_flush (current : List Char) : (flush current).flatten = current := by
  cases current <;> simp [flush]

theorem ne_nil_of_mem_flush {current word : List Char} (among : word ∈ flush current) :
    word ≠ [] := by
  cases current with
  | nil => cases among
  | cons c rest =>
    rw [List.mem_singleton.mp among]
    exact List.cons_ne_nil c rest

/-- What becomes of the next character: it separates, or it begins a word, or it goes to the end of
the word that may still grow. -/
theorem pieces_cons (current : List Char) (c : Char) (rest : List Char) :
    pieces current (c :: rest) =
      if isSeparator c then flush current ++ pieces [] rest
      else if current.getLast?.any (startsWord · c rest.head?) then flush current ++ pieces [c] rest
      else pieces (current ++ [c]) rest := by
  rw [pieces]
  split
  · rfl
  · cases last : current.getLast? with
    | none =>
      rw [List.getLast?_eq_none_iff.mp last]
      rfl
    | some previous =>
      have begun : current ≠ [] := by
        rintro rfl
        cases last
      simp [flush, begun]

theorem ne_nil_of_mem_pieces {current text word : List Char} (among : word ∈ pieces current text) :
    word ≠ [] := by
  induction text generalizing current with
  | nil => exact ne_nil_of_mem_flush among
  | cons c rest ih =>
    rw [pieces_cons] at among
    split at among
    · exact (List.mem_append.mp among).elim ne_nil_of_mem_flush ih
    · split at among
      · exact (List.mem_append.mp among).elim ne_nil_of_mem_flush ih
      · exact ih among

theorem exists_pieces_append (current before rest : List Char) :
    ∃ done growing, pieces current (before ++ rest) = done ++ pieces growing rest ∧
      done.flatten ++ growing = current ++ before.filter (!isSeparator ·) := by
  induction before generalizing current with
  | nil => exact ⟨[], current, rfl, by simp⟩
  | cons c before ih =>
    rw [List.cons_append, pieces_cons]
    by_cases separates : isSeparator c = true
    · obtain ⟨done, growing, read, kept⟩ := ih []
      refine ⟨flush current ++ done, growing, ?_, ?_⟩
      · rw [if_pos separates, read, List.append_assoc]
      · simp [flatten_flush, kept, separates]
    · rw [if_neg separates]
      split
      · obtain ⟨done, growing, read, kept⟩ := ih [c]
        refine ⟨flush current ++ done, growing, ?_, ?_⟩
        · rw [read, List.append_assoc]
        · simp [flatten_flush, kept, separates]
      · obtain ⟨done, growing, read, kept⟩ := ih (current ++ [c])
        exact ⟨done, growing, read, by simp [kept, separates]⟩

theorem exists_pieces_eq_cons (current rest : List Char) (begun : current ≠ []) :
    ∃ tail later, pieces current rest = (current ++ tail) :: later := by
  have finished : flush current = [current] := by simp [flush, begun]
  induction rest generalizing current with
  | nil => exact ⟨[], [], by rw [pieces, finished, List.append_nil]⟩
  | cons c rest ih =>
    rw [pieces_cons, finished]
    split
    · exact ⟨[], pieces [] rest, by rw [List.append_nil]; rfl⟩
    · split
      · exact ⟨[], pieces [c] rest, by rw [List.append_nil]; rfl⟩
      · obtain ⟨tail, later, grown⟩ := ih (current ++ [c]) (by simp) (by simp [flush])
        exact ⟨c :: tail, later, by rw [grown, List.append_assoc]; rfl⟩

end Pieces

section Borders

theorem exists_pieces_concat {c : Char} (solid : isSeparator c = false) (current rest : List Char) :
    ∃ done front, pieces current (c :: rest) = done ++ pieces (front ++ [c]) rest ∧
      done.flatten ++ front = current := by
  rw [pieces_cons, solid, if_neg Bool.false_ne_true]
  split
  · exact ⟨flush current, [], rfl, by rw [flatten_flush, List.append_nil]⟩
  · exact ⟨[], current, rfl, rfl⟩

theorem wordAt_ne_iff_startsWord (before after : List Char) {previous c : Char}
    (solid : isSeparator previous = false) (solid' : isSeparator c = false) :
    wordAt (pieces [] (before ++ previous :: c :: after))
          (before.filter (!isSeparator ·)).length ≠
        wordAt (pieces [] (before ++ previous :: c :: after))
          ((before.filter (!isSeparator ·)).length + 1) ↔
      startsWord previous c after.head? := by
  obtain ⟨done, growing, read, kept⟩ := exists_pieces_append [] before (previous :: c :: after)
  obtain ⟨more, front, readNext, keptNext⟩ := exists_pieces_concat solid growing (c :: after)
  have place : (before.filter (!isSeparator ·)).length =
      (done ++ more).flatten.length + front.length := by
    rw [← List.nil_append (before.filter _), ← kept, ← keptNext]
    simp only [List.flatten_append, List.length_append, Nat.add_assoc]
  have begun : pieces (front ++ [previous]) (c :: after) =
      if startsWord previous c after.head? then (front ++ [previous]) :: pieces [c] after
      else pieces (front ++ [previous] ++ [c]) after := by
    rw [pieces_cons, solid', if_neg Bool.false_ne_true, List.getLast?_concat, Option.any_some]
    simp [flush]
  rw [read, readNext, begun, place, Nat.add_assoc, ← List.append_assoc, wordAt_append,
    wordAt_append, ne_eq, Nat.add_left_cancel_iff]
  split
  · next starts =>
    obtain ⟨tail, later, grown⟩ := exists_pieces_eq_cons [c] after (List.cons_ne_nil c [])
    simp [grown, wordAt, starts]
  · next goesOn =>
    obtain ⟨tail, later, grown⟩ :=
      exists_pieces_eq_cons (front ++ [previous] ++ [c]) after (by simp)
    rw [grown, wordAt_cons_of_lt later (by simp), wordAt_cons_of_lt later (by simp)]
    simp [goesOn]

theorem exists_pieces_separated (before after : List Char) {c : Char}
    (separates : isSeparator c = true) :
    ∃ done, pieces [] (before ++ c :: after) = done ++ pieces [] after ∧
      done.flatten = before.filter (!isSeparator ·) := by
  obtain ⟨done, growing, read, kept⟩ := exists_pieces_append [] before (c :: after)
  refine ⟨done ++ flush growing, ?_, ?_⟩
  · rw [read, pieces_cons, if_pos separates, List.append_assoc]
  · rw [List.flatten_append, flatten_flush, kept, List.nil_append]

end Borders

section Indices

variable {text : List Char} {i j : Nat} {c : Char}

theorem placeOf_add_one (here : text[i]? = some c) (solid : isSeparator c = false) :
    placeOf text (i + 1) = placeOf text i + 1 := by
  simp [placeOf, List.take_add_one, here, solid]

theorem placeOf_le (text : List Char) (h : i ≤ j) : placeOf text i ≤ placeOf text j :=
  (List.take_sublist_take_left h).countP_le

theorem eq_take_append (here : text[i]? = some c) :
    text = text.take i ++ c :: text.drop (i + 1) := by
  obtain ⟨inside, rfl⟩ := List.getElem?_eq_some_iff.mp here
  rw [← List.drop_eq_getElem_cons inside, List.take_append_drop]

theorem borders_pieces {previous : Char} (here : text[i]? = some previous)
    (next : text[i + 1]? = some c) (solid : isSeparator previous = false)
    (solid' : isSeparator c = false) :
    wordAt (pieces [] text) (placeOf text i) ≠ wordAt (pieces [] text) (placeOf text (i + 1)) ↔
      startsWord previous c text[i + 2]? := by
  have border := wordAt_ne_iff_startsWord (text.take i) (text.drop (i + 2)) solid solid'
  have cut : text = text.take i ++ previous :: c :: text.drop (i + 2) := by
    obtain ⟨inside, rfl⟩ := List.getElem?_eq_some_iff.mp next
    rw [← List.drop_eq_getElem_cons inside]
    exact eq_take_append here
  rw [← cut, List.head?_drop, ← List.countP_eq_length_filter] at border
  rwa [placeOf_add_one here solid]

theorem gaps_pieces {k : Nat} {a b : Char} (before : i < j) (after : j < k)
    (here : text[i]? = some a) (between : text[j]? = some b) (solid : isSeparator a = false)
    (separates : isSeparator b = true) :
    wordAt (pieces [] text) (placeOf text i) ≠ wordAt (pieces [] text) (placeOf text k) := by
  obtain ⟨done, cut, kept⟩ :=
    exists_pieces_separated (text.take j) (text.drop (j + 1)) separates
  rw [← eq_take_append between] at cut
  have count : done.flatten.length = placeOf text j := by
    rw [kept, ← List.countP_eq_length_filter, placeOf]
  have first : placeOf text i < done.flatten.length := by
    have := placeOf_le text (Nat.succ_le_of_lt before)
    rw [placeOf_add_one here solid] at this
    omega
  have last := placeOf_le text (Nat.le_of_lt after)
  obtain ⟨place, behind⟩ := Nat.exists_eq_add_of_le (count ▸ last)
  rw [cut, behind, wordAt_append]
  have := wordAt_append_lt (pieces [] (text.drop (j + 1))) first
  omega

end Indices

theorem startsWord_iff {previous c : Char} {next? : Option Char} :
    startsWord previous c next? ↔ isUppercase c ∧ (isLowercase previous ∨ isNumeric previous ∨
      isUppercase previous ∧ ∃ next, next? = some next ∧ isLowercase next) := by
  simp [startsWord, or_assoc, Option.any_eq_true]

section Acronyms

theorem map_text_clearUniformAcronyms (words : List Word) :
    (clearUniformAcronyms words).map (·.text) = words.map (·.text) := by
  unfold clearUniformAcronyms
  split
  · rw [List.map_map]
    rfl
  · rfl

theorem exists_not_isAcronym {words : List Word} (nonempty : clearUniformAcronyms words ≠ []) :
    ∃ word ∈ clearUniformAcronyms words, word.isAcronym = false := by
  unfold clearUniformAcronyms at nonempty ⊢
  split
  · next uniform =>
    rw [if_pos uniform] at nonempty
    obtain ⟨word, rest, first⟩ := List.exists_cons_of_ne_nil nonempty
    refine ⟨word, first ▸ List.mem_cons_self, ?_⟩
    have among : word ∈ words.map _ := first ▸ List.mem_cons_self
    obtain ⟨_, _, rfl⟩ := List.mem_map.mp among
    rfl
  · next mixed => simpa using mixed

theorem map_isAcronym_clearUniformAcronyms {words : List Word}
    (own : ∀ word ∈ words, word.isAcronym = (ofText word.text).isAcronym) :
    (clearUniformAcronyms words).map (·.isAcronym) =
      if ∀ word ∈ clearUniformAcronyms words, (ofText word.text).isAcronym
      then (clearUniformAcronyms words).map fun _ => false
      else (clearUniformAcronyms words).map fun word => (ofText word.text).isAcronym := by
  have same : words.all (·.isAcronym) = true ↔ ∀ word ∈ words, (ofText word.text).isAcronym := by
    rw [List.all_eq_true]
    exact forall₂_congr fun word among => by rw [own word among]
  unfold clearUniformAcronyms
  split
  · next uniform =>
    have stays : ∀ word ∈ words.map fun word => { word with isAcronym := false },
        (ofText word.text).isAcronym := by
      intro word among
      obtain ⟨original, listed, rfl⟩ := List.mem_map.mp among
      exact same.mp uniform original listed
    rw [if_pos stays, List.map_map, List.map_map]
    rfl
  · next mixed =>
    rw [if_neg (mt same.mpr mixed)]
    exact List.map_congr_left own

end Acronyms

theorem map_toList_split (text : String) :
    (split text).map (·.text.toList) = pieces [] text.toList := by
  have texts := map_text_clearUniformAcronyms
    ((pieces [] text.toList).map fun piece => ofText (String.ofList piece))
  have chars := congrArg (List.map String.toList) texts
  simpa [split, ofText, Function.comp_def] using chars

/-- Every text is split into its words. -/
theorem splits_split (text : String) : Splits text (split text) := by
  have words := map_toList_split text
  have flatten : ((split text).map (·.text.toList)).flatten =
      text.toList.filter (!isSeparator ·) := by
    rw [words, flatten_pieces, List.nil_append]
  constructor
  case nonempty =>
    intro word among empty
    have listed := List.mem_map_of_mem (f := fun word : Word => word.text.toList) among
    rw [words, empty] at listed
    exact ne_nil_of_mem_pieces listed rfl
  case unseparated =>
    intro word among c inside
    have kept : c ∈ text.toList.filter (!isSeparator ·) := by
      rw [← flatten]
      exact List.mem_flatten_of_mem (List.mem_map_of_mem among) inside
    simpa using (List.mem_filter.mp kept).2
  case complete => rwa [← List.flatMap_def] at flatten
  case borders =>
    intro i previous c here next solid solid'
    rw [words, borders_pieces here next solid solid', startsWord_iff]
  case gaps =>
    intro i j k a b c before after here between there solid separates solid'
    rw [words]
    exact gaps_pieces before after here between solid separates
  case acronyms =>
    refine map_isAcronym_clearUniformAcronyms fun word among => ?_
    obtain ⟨piece, _, rfl⟩ := List.mem_map.mp among
    rfl
  case telling => exact exists_not_isAcronym

/-- A run of capitals keeps its last one for the small letters behind it, and a numeral stays with
what is in front of it. -/
example : (split "item2HTTPServer, FOO_bar").map (fun word => (word.text, word.isAcronym)) =
    [("item2", false), ("HTTP", true), ("Server", false), ("FOO", true), ("bar", false)] := by
  decide +kernel

end Word

end JsonBinding
