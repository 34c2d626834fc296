import JsonBinding.Text.Lines
/-!
The lines of source text. `IsCut` says what a cut of a text into lines is, end by end: CR LF ends a
line as a whole, so that a CR alone ends one only if no LF follows it. Every text has one cut, which
is the one that `sourceLines` makes (`isCut_iff`). To write LF for every end and to cut at every LF
afterwards comes to the same (`splitOn_unifyEnds`).
-/
namespace JsonBinding.Text

/-- The lines of a text, each of which ends at CR LF, CR or LF. -/
def sourceLines : List Char → List (List Char)
  | [] => [[]]
  | '\r' :: '\n' :: rest => [] :: sourceLines rest
  | c :: rest =>
    if c = '\r' ∨ c = '\n' then [] :: sourceLines rest else consFirst c (sourceLines rest)

/-- Text in which no line ends. -/
def IsOpen (text : List Char) : Prop :=
  '\r' ∉ text ∧ '\n' ∉ text

instance (text : List Char) : Decidable (IsOpen text) :=
  inferInstanceAs (Decidable ('\r' ∉ text ∧ '\n' ∉ text))

/-- What may stand at the end of a line, in front of the rest of the text. -/
inductive EndsLine : List Char → List Char → Prop
  | pair (rest : List Char) : EndsLine ['\r', '\n'] rest
  | feed (rest : List Char) : EndsLine ['\n'] rest
  /-- A CR in front of LF does not end the line by itself. -/
  | carriage {rest : List Char} : rest.head? ≠ some '\n' → EndsLine ['\r'] rest

/-- A text and its lines. Every line but the last one has an end. -/
inductive IsCut : List Char → List (List Char) → Prop
  | last {line : List Char} : IsOpen line → IsCut line [line]
  | line {line ending rest : List Char} {lines : List (List Char)} : IsOpen line →
      EndsLine ending rest → IsCut rest lines → IsCut (line ++ ending ++ rest) (line :: lines)

theorem isOpen_nil : IsOpen [] :=
  ⟨List.not_mem_nil, List.not_mem_nil⟩

theorem isOpen_cons_iff {c : Char} {text : List Char} :
    IsOpen (c :: text) ↔ ¬ (c = '\r' ∨ c = '\n') ∧ IsOpen text := by
  simp only [IsOpen, List.mem_cons, not_or, eq_comm (a := c)]
  exact and_and_and_comm

theorem isOpen_append_iff {a b : List Char} : IsOpen (a ++ b) ↔ IsOpen a ∧ IsOpen b := by
  simp only [IsOpen, List.mem_append, not_or]
  exact and_and_and_comm

theorem isOpen_intercalate {separator : List Char} (separates : IsOpen separator)
    {parts : List (List Char)} (each : ∀ part ∈ parts, IsOpen part) :
    IsOpen (separator.intercalate parts) := by
  induction parts with
  | nil => exact isOpen_nil
  | cons part rest ih =>
    obtain ⟨first, others⟩ := List.forall_mem_cons.mp each
    by_cases last : rest = []
    · rw [last, List.intercalate_singleton]
      exact first
    · rw [List.intercalate_cons_of_ne_nil last, isOpen_append_iff, isOpen_append_iff]
      exact ⟨⟨first, separates⟩, ih others⟩

section SourceLines

variable {c : Char} {rest : List Char}

theorem sourceLines_feed (rest : List Char) :
    sourceLines ('\n' :: rest) = [] :: sourceLines rest := by
  rw [sourceLines, if_pos (.inr rfl)]
  exact fun _ same _ => absurd same (by decide)

theorem sourceLines_carriage (alone : rest.head? ≠ some '\n') :
    sourceLines ('\r' :: rest) = [] :: sourceLines rest := by
  rw [sourceLines, if_pos (.inl rfl)]
  rintro after - rfl
  exact alone rfl

theorem sourceLines_of_goesOn (goesOn : ¬ (c = '\r' ∨ c = '\n')) (rest : List Char) :
    sourceLines (c :: rest) = consFirst c (sourceLines rest) := by
  rw [sourceLines, if_neg goesOn]
  exact fun _ same _ => goesOn (.inl same)

theorem sourceLines_ne_nil (text : List Char) : sourceLines text ≠ [] := by
  unfold sourceLines
  split
  · exact List.cons_ne_nil _ _
  · exact List.cons_ne_nil _ _
  · split
    · exact List.cons_ne_nil _ _
    · unfold consFirst
      split <;> exact List.cons_ne_nil _ _

theorem sourceLines_eq_singleton {text : List Char} (carriage : '\r' ∉ text) (feed : '\n' ∉ text) :
    sourceLines text = [text] := by
  induction text with
  | nil => rfl
  | cons c rest ih =>
    obtain ⟨goesOn, others⟩ := isOpen_cons_iff.mp ⟨carriage, feed⟩
    rw [sourceLines_of_goesOn goesOn, ih others.1 others.2, consFirst]

theorem sourceLines_append {line ending : List Char} (isOpen : IsOpen line)
    (ends : EndsLine ending rest) :
    sourceLines (line ++ ending ++ rest) = line :: sourceLines rest := by
  induction line with
  | nil =>
    cases ends with
    | pair => rfl
    | feed => exact sourceLines_feed rest
    | carriage alone => exact sourceLines_carriage alone
  | cons c line ih =>
    obtain ⟨goesOn, others⟩ := isOpen_cons_iff.mp isOpen
    rw [List.cons_append, List.cons_append, sourceLines_of_goesOn goesOn, ih others, consFirst]

end SourceLines

section Lines

theorem lines_cons_of_ne {c : Char} {rest : List Char} (goesOn : c ≠ '\n')
    (split : c = '\r' → rest.head? ≠ some '\n') : lines (c :: rest) = consFirst c (lines rest) := by
  rw [lines, if_neg goesOn]
  rintro after rfl rfl
  exact split rfl rfl

theorem lines_append_feed {line : List Char} (isOpen : IsOpen line) (rest : List Char) :
    lines (line ++ '\n' :: rest) = line :: lines rest := by
  induction line with
  | nil => rfl
  | cons c line ih =>
    obtain ⟨goesOn, others⟩ := isOpen_cons_iff.mp isOpen
    have carriage : c = '\r' → (line ++ '\n' :: rest).head? ≠ some '\n' :=
      fun same => absurd (.inl same) goesOn
    rw [List.cons_append, lines_cons_of_ne (fun same => goesOn (.inr same)) carriage, ih others,
      consFirst]

theorem lines_of_isOpen {line : List Char} (isOpen : IsOpen line) (nonempty : line ≠ []) :
    lines line = [line] := by
  induction line with
  | nil => exact absurd rfl nonempty
  | cons c line ih =>
    obtain ⟨goesOn, others⟩ := isOpen_cons_iff.mp isOpen
    have carriage : c = '\r' → line.head? ≠ some '\n' := fun same => absurd (.inl same) goesOn
    rw [lines_cons_of_ne (fun same => goesOn (.inr same)) carriage]
    cases line with
    | nil => rfl
    | cons d rest => rw [ih others (List.cons_ne_nil d rest), consFirst]

/-- Lines that are put under one another are found again, unless they are empty or hold an end. -/
theorem lines_unlines {texts : List String}
    (each : ∀ text ∈ texts, IsOpen text.toList ∧ text.toList ≠ []) :
    lines (unlines texts).toList = texts.map String.toList := by
  induction texts with
  | nil => rfl
  | cons text rest ih =>
    obtain ⟨⟨isOpen, nonempty⟩, others⟩ := List.forall_mem_cons.mp each
    by_cases last : rest = []
    · rw [last, unlines, String.intercalate_singleton]
      exact lines_of_isOpen isOpen nonempty
    · have below :
          (unlines (text :: rest)).toList = text.toList ++ '\n' :: (unlines rest).toList := by
        rw [unlines, String.intercalate_cons_of_ne_nil last, String.toList_append,
          String.toList_append, List.append_assoc]
        rfl
      rw [below, lines_append_feed isOpen, ih others, List.map_cons]

end Lines

namespace IsCut

variable {text : List Char} {lines : List (List Char)}

theorem isOpen_of_mem (cut : IsCut text lines) : ∀ line ∈ lines, IsOpen line := by
  induction cut with
  | last isOpen => exact List.forall_mem_singleton.mpr isOpen
  | line isOpen _ _ ih => exact List.forall_mem_cons.mpr ⟨isOpen, ih⟩

theorem eq_sourceLines (cut : IsCut text lines) : lines = sourceLines text := by
  induction cut with
  | last isOpen => exact (sourceLines_eq_singleton isOpen.1 isOpen.2).symm
  | line isOpen ends _ ih => rw [sourceLines_append isOpen ends, ih]

theorem cons {c : Char} (goesOn : ¬ (c = '\r' ∨ c = '\n')) (cut : IsCut text lines) :
    IsCut (c :: text) (consFirst c lines) := by
  cases cut with
  | last isOpen => exact .last (isOpen_cons_iff.mpr ⟨goesOn, isOpen⟩)
  | line isOpen ends rest => exact .line (isOpen_cons_iff.mpr ⟨goesOn, isOpen⟩) ends rest

end IsCut

theorem isCut_sourceLines (text : List Char) : IsCut text (sourceLines text) := by
  induction text using sourceLines.induct with
  | case1 => exact .last isOpen_nil
  | case2 rest ih => exact .line isOpen_nil (.pair rest) ih
  | case3 c rest split ended ih =>
    rcases ended with rfl | rfl
    · have alone : rest.head? ≠ some '\n' := fun next => by
        obtain ⟨after, rfl⟩ := List.head?_eq_some_iff.mp next
        exact split after rfl rfl
      rw [sourceLines_carriage alone]
      exact .line isOpen_nil (.carriage alone) ih
    · rw [sourceLines_feed]
      exact .line isOpen_nil (.feed rest) ih
  | case4 c rest split goesOn ih =>
    rw [sourceLines_of_goesOn goesOn]
    exact ih.cons goesOn

/-- A text is cut into lines in one way. -/
theorem isCut_iff {text : List Char} {lines : List (List Char)} :
    IsCut text lines ↔ lines = sourceLines text :=
  ⟨IsCut.eq_sourceLines, fun same => same ▸ isCut_sourceLines text⟩

section UnifyEnds

variable {c : Char} {rest : List Char}

theorem unifyEnds_pair (rest : List Char) :
    unifyEnds ('\r' :: '\n' :: rest) = '\n' :: unifyEnds rest := rfl

theorem unifyEnds_cons (single : ∀ after, c = '\r' → rest = '\n' :: after → False) :
    unifyEnds (c :: rest) = (if c = '\r' then '\n' else c) :: unifyEnds rest := by
  rw [unifyEnds, replacePairs, List.map_cons, unifyEnds]
  exact single

theorem splitOn_feed (rest : List Char) :
    ('\n' :: rest).splitOn '\n' = [] :: rest.splitOn '\n' := by
  rw [List.splitOn_eq_splitOnP, List.splitOnP_cons_eq_if_modifyHead, beq_self_eq_true, if_pos rfl,
    List.splitOn_eq_splitOnP]

theorem splitOn_of_ne (other : c ≠ '\n') {lines : List (List Char)}
    (cut : rest.splitOn '\n' = lines) (nonempty : lines ≠ []) :
    (c :: rest).splitOn '\n' = consFirst c lines := by
  obtain ⟨line, later, rfl⟩ := List.exists_cons_of_ne_nil nonempty
  rw [List.splitOn_eq_splitOnP] at cut ⊢
  rw [List.splitOnP_cons_eq_if_modifyHead, cut, if_neg (by simpa using other)]
  rfl

/-- Where LF is written for every end, a cut at every LF finds the lines. -/
theorem splitOn_unifyEnds (text : List Char) :
    (unifyEnds text).splitOn '\n' = sourceLines text := by
  induction text using sourceLines.induct with
  | case1 => rfl
  | case2 rest ih => rw [unifyEnds_pair, splitOn_feed, ih, sourceLines]
  | case3 c rest single ended ih =>
    have feed : (if c = '\r' then '\n' else c) = '\n' := by
      rcases ended with rfl | rfl <;> rfl
    rw [unifyEnds_cons single, feed, splitOn_feed, ih, sourceLines.eq_3 c rest single, if_pos ended]
  | case4 c rest single goesOn ih =>
    have stays : (if c = '\r' then '\n' else c) = c := if_neg fun same => goesOn (.inl same)
    have other : c ≠ '\n' := fun same => goesOn (.inr same)
    rw [unifyEnds_cons single, stays, sourceLines_of_goesOn goesOn]
    exact splitOn_of_ne other ih (sourceLines_ne_nil rest)

end UnifyEnds

end JsonBinding.Text
