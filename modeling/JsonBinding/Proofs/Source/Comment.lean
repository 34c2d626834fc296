import JsonBinding.Proofs.Text.Lines
import JsonBinding.Source.Comment
/-!
Comments go line by line. A text is cut wherever a reader of source text sees the end of a line, so
that no piece holds one, and each piece becomes a comment of its own
(`comments_go_line_by_line`). Nothing in such a comment can end it (`IsComment`).
-/
namespace JsonBinding

namespace Source

open Character Text

/-- A comment that nothing in it can end. -/
def IsComment (line : String) : Prop :=
  line.toList.head? = some '#' ∧ '\n' ∉ line.toList ∧ '\r' ∉ line.toList

theorem not_mem_commentLine {c : Char} {line : List Char} (blank : c ≠ ' ') (mark : c ≠ '#')
    (without : c ∉ line) : c ∉ commentLine line := by
  have within : trimEnd line <+: line := dropEnd_prefix _ line
  have kept : c ∉ trimEnd line := fun among => without (within.subset among)
  unfold commentLine
  split
  · exact List.not_mem_cons_of_ne_of_not_mem mark List.not_mem_nil
  · exact List.not_mem_cons_of_ne_of_not_mem mark (List.not_mem_cons_of_ne_of_not_mem blank kept)

theorem head?_commentLine (line : List Char) : (commentLine line).head? = some '#' := by
  unfold commentLine
  split <;> rfl

theorem exists_last_commentLine (line : List Char) :
    ∃ c, (commentLine line).getLast? = some c ∧ isWhitespace c = false := by
  unfold commentLine
  split
  · exact ⟨'#', rfl, by decide⟩
  · next left =>
    obtain ⟨front, c, ends, shows⟩ := exists_last_dropEnd left
    have whole : '#' :: ' ' :: trimEnd line = '#' :: ' ' :: front ++ [c] := by
      rw [trimEnd, ends, List.cons_append, List.cons_append]
    exact ⟨c, whole ▸ List.getLast?_concat, shows⟩

theorem commentLines_eq (text : String) :
    commentLines text =
      (sourceLines text.toList).map fun line => String.ofList (commentLine line) := by
  rw [commentLines, splitOn_unifyEnds]

theorem isComment_of_mem {text line : String} (among : line ∈ commentLines text) :
    IsComment line := by
  rw [commentLines_eq] at among
  obtain ⟨piece, cut, rfl⟩ := List.mem_map.mp among
  obtain ⟨carriage, feed⟩ := (isCut_sourceLines text.toList).isOpen_of_mem piece cut
  unfold IsComment
  rw [String.toList_ofList]
  refine ⟨head?_commentLine piece, ?_, ?_⟩
  · exact not_mem_commentLine (by decide) (by decide) feed
  · exact not_mem_commentLine (by decide) (by decide) carriage

theorem indent_of_isComment {line : String} (comment : IsComment line) :
    indent line = indentation ++ line := by
  refine if_neg ?_
  rintro rfl
  exact nomatch comment.1

theorem ofList_commentLine (line : List Char) :
    String.ofList (commentLine line) =
      if trimEnd line = [] then "#" else "# " ++ String.ofList (trimEnd line) := by
  unfold commentLine
  split
  · next blank => rw [if_pos blank]
  · next nonblank =>
    rw [if_neg nonblank, ← String.ofList_append]
    rfl

/-- A text is cut into lines in one way, and its comments are those of its lines, in order: `#` for
a line that is blank, and otherwise the line behind `# ` without the white space at its end. So none
of them holds an end of a line, and none ends in white space. -/
theorem comments_go_line_by_line (text : String) :
    (∃ lines, IsCut text.toList lines ∧ (∀ other, IsCut text.toList other → other = lines) ∧
      commentLines text = lines.map fun line =>
        if trimEnd line = [] then "#" else "# " ++ String.ofList (trimEnd line)) ∧
      ∀ entry ∈ commentLines text, IsComment entry ∧
        ∃ c, entry.toList.getLast? = some c ∧ isWhitespace c = false := by
  constructor
  · refine ⟨sourceLines text.toList, isCut_sourceLines _, fun _ cut => isCut_iff.mp cut, ?_⟩
    rw [commentLines_eq]
    exact List.map_congr_left fun line _ => ofList_commentLine line
  · intro entry among
    refine ⟨isComment_of_mem among, ?_⟩
    rw [commentLines_eq] at among
    obtain ⟨line, _, rfl⟩ := List.mem_map.mp among
    rw [String.toList_ofList]
    exact exists_last_commentLine line

/-- All ways to end a line in a row, a CR in front of CR LF among them, and white space at both ends
of lines. -/
def crowdedText : String :=
  "a \r\r\n\n b\t\r"

theorem crowdedText_comments :
    IsCut crowdedText.toList ["a ".toList, [], [], " b\t".toList, []] ∧
      "#  b" ∈ commentLines crowdedText ∧ IsComment "#  b" ∧
      commentLines crowdedText = ["# a", "#", "#", "#  b", "#"] := by
  obtain ⟨⟨lines, _, only, comments⟩, each⟩ := comments_go_line_by_line crowdedText
  have cut : IsCut crowdedText.toList ["a ".toList, [], [], " b\t".toList, []] :=
    isCut_iff.mpr (by decide +kernel)
  rw [← only _ cut] at comments
  have written : commentLines crowdedText = ["# a", "#", "#", "#  b", "#"] := by
    rw [comments]
    decide +kernel
  have among : "#  b" ∈ commentLines crowdedText := written ▸ by decide
  exact ⟨cut, among, (each _ among).1, written⟩

end Source

end JsonBinding
