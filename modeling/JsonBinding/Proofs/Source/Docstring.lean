import JsonBinding.Proofs.Source.Literal
/-!
Docstrings end at their own quotes. A description is escaped before anything else is done with it;
an escape is no white space and ends no line, so to trim and to cut the escaped text is to escape
the lines of the trimmed text (`docLines_flatMap_escapeDoc`). What then stands between the quotes is
the escaped form of those lines, and a reader that takes every backslash together with the character
behind it comes to no other quote before the closing ones (`docstring_ends_at_its_quotes`).
-/
namespace JsonBinding.Source

open Character Text

section Escaping

theorem escapeDoc_eq (c : Char) : escapeDoc c = [c] ∨ escapeDoc c = ['\\', c] := by
  unfold escapeDoc
  split
  · exact .inr rfl
  · exact .inl rfl

theorem escapeDoc_of_isWhitespace {c : Char} (blank : isWhitespace c = true) :
    escapeDoc c = [c] := by
  refine if_neg ?_
  rintro (rfl | rfl) <;> cases blank

theorem flatMap_escapeDoc_eq_nil {text : List Char} (h : text.flatMap escapeDoc = []) :
    text = [] := by
  cases text with
  | nil => rfl
  | cons c rest =>
    rcases escapeDoc_eq c with plain | escaped
    · rw [List.flatMap_cons, plain] at h
      cases h
    · rw [List.flatMap_cons, escaped] at h
      cases h

theorem dropWhile_flatMap_escapeDoc (text : List Char) :
    (text.flatMap escapeDoc).dropWhile isWhitespace =
      (text.dropWhile isWhitespace).flatMap escapeDoc := by
  induction text with
  | nil => rfl
  | cons c rest ih =>
    by_cases blank : isWhitespace c = true
    · rw [List.flatMap_cons, escapeDoc_of_isWhitespace blank, List.singleton_append,
        List.dropWhile_cons_of_pos blank, List.dropWhile_cons_of_pos blank, ih]
    · rw [List.dropWhile_cons_of_neg blank, List.flatMap_cons]
      rcases escapeDoc_eq c with plain | escaped
      · rw [plain]
        exact List.dropWhile_cons_of_neg blank
      · rw [escaped]
        exact List.dropWhile_cons_of_neg (by decide)

theorem trimEnd_flatMap_escapeDoc (text : List Char) :
    trimEnd (text.flatMap escapeDoc) = (trimEnd text).flatMap escapeDoc := by
  rw [← List.reverse_reverse text]
  induction text.reverse with
  | nil => rfl
  | cons c rest ih =>
    rw [List.reverse_cons, List.flatMap_append, List.flatMap_singleton]
    by_cases blank : isWhitespace c = true
    · rw [escapeDoc_of_isWhitespace blank]
      unfold trimEnd at ih ⊢
      rw [dropEnd_append_singleton_of_pos _ blank, dropEnd_append_singleton_of_pos _ blank, ih]
    · have solid : isWhitespace c = false := by simpa using blank
      have stays : trimEnd (rest.reverse ++ [c]) = rest.reverse ++ [c] :=
        dropEnd_append_singleton_of_neg _ solid
      rw [stays, List.flatMap_append, List.flatMap_singleton]
      rcases escapeDoc_eq c with plain | escaped
      · rw [plain]
        exact dropEnd_append_singleton_of_neg _ solid
      · rw [escaped, List.append_cons]
        exact dropEnd_append_singleton_of_neg _ solid

theorem trim_flatMap_escapeDoc (text : List Char) :
    trim (text.flatMap escapeDoc) = (trim text).flatMap escapeDoc := by
  have ends := trimEnd_flatMap_escapeDoc (text.dropWhile isWhitespace)
  rw [← dropWhile_flatMap_escapeDoc] at ends
  exact ends

theorem consFirst_flatMap_escapeDoc (c : Char) (lines : List (List Char)) :
    (consFirst c lines).map (·.flatMap escapeDoc) =
      (escapeDoc c).foldr consFirst (lines.map (·.flatMap escapeDoc)) := by
  cases lines <;> rcases escapeDoc_eq c with same | same <;> simp [consFirst, same]

theorem head?_flatMap_escapeDoc_ne {text : List Char} (h : text.head? ≠ some '\n') :
    (text.flatMap escapeDoc).head? ≠ some '\n' := by
  cases text with
  | nil => exact h
  | cons c rest =>
    rw [List.flatMap_cons]
    rcases escapeDoc_eq c with plain | escaped
    · rw [plain]
      exact h
    · rw [escaped]
      exact nofun

theorem lines_flatMap_escapeDoc (text : List Char) :
    lines (text.flatMap escapeDoc) = (lines text).map (·.flatMap escapeDoc) := by
  induction text using lines.induct with
  | case1 => rfl
  | case2 rest ih => exact congrArg (List.cons []) ih
  | case3 rest split ih => exact congrArg (List.cons []) ih
  | case4 c rest split goesOn ih =>
    have apart : c = '\r' → rest.head? ≠ some '\n' := by
      intro carriage feed
      obtain ⟨after, rfl⟩ := List.head?_eq_some_iff.mp feed
      exact split after carriage rfl
    have last : lines (c :: rest.flatMap escapeDoc) =
        consFirst c (lines (rest.flatMap escapeDoc)) :=
      lines_cons_of_ne goesOn fun carriage => head?_flatMap_escapeDoc_ne (apart carriage)
    rw [lines_cons_of_ne goesOn apart, consFirst_flatMap_escapeDoc, ← ih, List.flatMap_cons]
    rcases escapeDoc_eq c with plain | escaped
    · rw [plain]
      exact last
    · rw [escaped]
      exact (lines_cons_of_ne (by decide) (fun same => absurd same (by decide))).trans
        (congrArg (consFirst '\\') last)

theorem docLines_flatMap_escapeDoc (text : List Char) :
    docLines (text.flatMap escapeDoc) = (docLines text).map (·.flatMap escapeDoc) := by
  unfold docLines
  rw [trim_flatMap_escapeDoc, lines_flatMap_escapeDoc, List.map_map, List.map_map]
  exact List.map_congr_left fun line _ => trimEnd_flatMap_escapeDoc line

end Escaping

/-- A text with its characters as they stand in a docstring. -/
def escaped (text : String) : String :=
  String.ofList (text.toList.flatMap escapeDoc)

/-- What a docstring says: the one line of the description, or all its lines as they stand in the
body of the type, from the line behind the first quotes to the one of the last quotes. -/
def docContent (description : List Char) : String :=
  match (docLines description).map String.ofList with
  | [line] => line
  | lines => unlines ("" :: lines.map indent ++ [indentation])

section Layout

theorem escaped_append (a b : String) : escaped (a ++ b) = escaped a ++ escaped b := by
  simp [escaped]

theorem escaped_eq_empty {text : String} (h : escaped text = "") : text = "" := by
  have chars := congrArg String.toList h
  rw [escaped, String.toList_ofList] at chars
  exact String.toList_inj.mp (flatMap_escapeDoc_eq_nil chars)

theorem escaped_indent (line : String) : escaped (indent line) = indent (escaped line) := by
  unfold indent
  by_cases blank : line = ""
  · rw [if_pos blank, blank]
    rfl
  · rw [if_neg blank, if_neg (mt escaped_eq_empty blank), escaped_append]
    rfl

theorem escaped_unlines (lines : List String) :
    escaped (unlines lines) = unlines (lines.map escaped) := by
  unfold unlines
  induction lines with
  | nil => rfl
  | cons line rest ih =>
    by_cases last : rest = []
    · rw [last, List.map_singleton, String.intercalate_singleton, String.intercalate_singleton]
    · have others : rest.map escaped ≠ [] := mt List.map_eq_nil_iff.mp last
      rw [List.map_cons, String.intercalate_cons_of_ne_nil last,
        String.intercalate_cons_of_ne_nil others, escaped_append, escaped_append, ih]
      rfl

theorem unlines_concat_append (lines : List String) (a b : String) :
    unlines (lines ++ [a ++ b]) = unlines (lines ++ [a]) ++ b := by
  unfold unlines
  by_cases empty : lines = []
  · rw [empty, List.nil_append, List.nil_append, String.intercalate_singleton,
      String.intercalate_singleton]
  · rw [String.intercalate_append_of_ne_nil empty (List.cons_ne_nil _ _),
      String.intercalate_append_of_ne_nil empty (List.cons_ne_nil _ _),
      String.intercalate_singleton, String.intercalate_singleton, ← String.append_assoc]

theorem indent_docQuotes_append (text : String) :
    indent (docQuotes ++ text) = indentation ++ docQuotes ++ text := by
  have written : docQuotes ++ text ≠ "" := fun empty => by
    have chars := congrArg String.toList empty
    rw [String.toList_append] at chars
    cases chars
  rw [indent, if_neg written, String.append_assoc]

theorem unlines_indent_between (lines : List String) :
    unlines ((docQuotes :: lines.map escaped ++ [docQuotes]).map indent) =
      indentation ++ docQuotes ++ escaped (unlines ("" :: lines.map indent ++ [indentation])) ++
        docQuotes := by
  have quotes : indent docQuotes = indentation ++ docQuotes := rfl
  have between : (lines.map escaped).map indent = (lines.map indent).map escaped := by
    rw [List.map_map, List.map_map]
    exact List.map_congr_left fun line _ => (escaped_indent line).symm
  have ends : ("" :: lines.map indent ++ [indentation]).map escaped =
      "" :: (lines.map indent).map escaped ++ [indentation] := by
    rw [List.map_append]
    rfl
  rw [List.map_append, List.map_cons, List.map_singleton, between, quotes, unlines_concat_append,
    List.cons_append, unlines_append_cons, escaped_unlines, ends, List.cons_append]

theorem unlines_docstringLines {description : String} (nonblank : trim description.toList ≠ []) :
    unlines (docstringLines (some description)) =
      indentation ++ docQuotes ++ escaped (docContent description.toList) ++ docQuotes := by
  have written : (docLines (description.toList.flatMap escapeDoc)).map String.ofList =
      ((docLines description.toList).map String.ofList).map escaped := by
    rw [docLines_flatMap_escapeDoc, List.map_map, List.map_map]
    exact List.map_congr_left fun line _ => by simp [escaped]
  unfold docstringLines docstring docContent
  dsimp only
  rw [if_neg nonblank, written]
  generalize (docLines description.toList).map String.ofList = lines
  match lines with
  | [] => exact unlines_indent_between []
  | [line] =>
    have single : unlines [indent (docQuotes ++ escaped line ++ docQuotes)] =
        indent (docQuotes ++ escaped line ++ docQuotes) := String.intercalate_singleton
    refine single.trans ?_
    rw [String.append_assoc, indent_docQuotes_append, ← String.append_assoc]
  | first :: second :: rest => exact unlines_indent_between (first :: second :: rest)

end Layout

/-- Reads the text behind the first quotes of a docstring, and tells what follows it. A backslash is
taken together with the character behind it, which must be one that has an escape; the text ends at
the first quote that is not taken so. -/
def readDoc : List Char → Option (List Char × List Char)
  | [] => none
  | '"' :: rest => some ([], '"' :: rest)
  | ['\\'] => none
  | '\\' :: c :: rest => if c = '\\' ∨ c = '"' then readFirst c (readDoc rest) else none
  | c :: rest => readFirst c (readDoc rest)

section Reading

theorem readDoc_plain {c : Char} (quote : c ≠ '"') (backslash : c ≠ '\\') (rest : List Char) :
    readDoc (c :: rest) = readFirst c (readDoc rest) := by
  rw [readDoc] <;> simp [quote, backslash]

theorem readDoc_escapeDoc (c : Char) (rest : List Char) :
    readDoc (escapeDoc c ++ rest) = readFirst c (readDoc rest) := by
  unfold escapeDoc
  split
  · next special => exact if_pos special
  · next plain =>
    rw [not_or] at plain
    exact readDoc_plain plain.2 plain.1 rest

theorem readDoc_flatMap (text rest : List Char) :
    readDoc (text.flatMap escapeDoc ++ '"' :: rest) = some (text, '"' :: rest) := by
  induction text with
  | nil => rfl
  | cons c text ih =>
    rw [List.flatMap_cons, List.append_assoc, readDoc_escapeDoc, ih]
    rfl

end Reading

/-- The docstring of a description that is not blank stands between its quotes in the body of the
type. A reader comes to no other quote, and to no backslash that is not part of an escape, before
the last quotes, whatever follows them; and it finds the lines of the description. -/
theorem docstring_ends_at_its_quotes {description : String}
    (nonblank : trim description.toList ≠ []) :
    ∃ body, unlines (docstringLines (some description)) =
        indentation ++ docQuotes ++ body ++ docQuotes ∧
      ∀ rest, readDoc (body.toList ++ docQuotes.toList ++ rest) =
        some ((docContent description.toList).toList, docQuotes.toList ++ rest) := by
  refine ⟨escaped (docContent description.toList), unlines_docstringLines nonblank, fun rest => ?_⟩
  rw [escaped, String.toList_ofList, List.append_assoc]
  exact readDoc_flatMap _ _

/-- Quotes and backslashes at the ends of lines, between white space of all kinds. -/
def hostileDescription : String :=
  " \tsay \"hi\"\\ \r\n \n  \"\"\"\\\r"

theorem hostileDescription_docstring :
    trim hostileDescription.toList ≠ [] ∧
      docContent hostileDescription.toList =
        "\n    say \"hi\"\\\n\n      \"\"\"\\\n    " ∧
      ∃ body, unlines (docstringLines (some hostileDescription)) =
          "    \"\"\"" ++ body ++ "\"\"\"" ∧
        ∀ rest, readDoc (body.toList ++ docQuotes.toList ++ rest) =
          some ((docContent hostileDescription.toList).toList, docQuotes.toList ++ rest) := by
  have nonblank : trim hostileDescription.toList ≠ [] := by decide +kernel
  exact ⟨nonblank, by decide +kernel, docstring_ends_at_its_quotes nonblank⟩

end JsonBinding.Source
