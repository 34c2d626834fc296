import JsonBinding.Proofs.Json.Token
import JsonBinding.Proofs.Source.Comment
import JsonBinding.Source.Literal
/-!
String literals say what they were written for. A reader of source text takes the quote that a
literal starts with, then one character or one escape after another, up to a quote that belongs to
no escape. What it makes of the literal of a text is that text, whatever stands behind the literal
(`readLiteral_literal`), so no two texts have the same literal.
-/
namespace JsonBinding.Source

open Character Text

def readFirst (c : Char) : Option (List Char × List Char) → Option (List Char × List Char) :=
  Option.map fun (chars, rest) => (c :: chars, rest)

/-- Reads a literal from behind its first quote: what it means, and what follows its last quote. A
backslash that begins no escape stands for itself. -/
def readBody : List Char → Option (List Char × List Char)
  | [] => none
  | '"' :: rest => some ([], rest)
  | '\\' :: '\\' :: rest => readFirst '\\' (readBody rest)
  | '\\' :: '"' :: rest => readFirst '"' (readBody rest)
  | '\\' :: 'n' :: rest => readFirst '\n' (readBody rest)
  | '\\' :: 'r' :: rest => readFirst '\r' (readBody rest)
  | '\\' :: 't' :: rest => readFirst '\t' (readBody rest)
  | '\\' :: 'x' :: a :: b :: rest =>
    match Json.hexValue? a, Json.hexValue? b with
    | some high, some low => readFirst (Char.ofNat (16 * high + low)) (readBody rest)
    | _, _ => readFirst '\\' (readBody ('x' :: a :: b :: rest))
  | c :: rest => readFirst c (readBody rest)

def readLiteral : List Char → Option (String × List Char)
  | '"' :: rest => (readBody rest).map fun (chars, rest) => (String.ofList chars, rest)
  | _ => none

section Reading

theorem readBody_plain {c : Char} (quote : c ≠ '"') (backslash : c ≠ '\\') (rest : List Char) :
    readBody (c :: rest) = readFirst c (readBody rest) := by
  rw [readBody] <;> simp [quote, backslash]

theorem toNat_lt_of_isControl {c : Char} (control : isControl c = true) : c.toNat < 0x100 := by
  simp only [isControl, Bool.or_eq_true, Bool.and_eq_true, decide_eq_true_eq] at control
  omega

theorem readBody_code {c : Char} (control : isControl c = true) (rest : List Char) :
    readBody ('\\' :: 'x' :: hex 2 c.toNat ++ rest) = readFirst c (readBody rest) := by
  have bound := toNat_lt_of_isControl control
  have digits : hex 2 c.toNat = [hexDigit (c.toNat / 16 % 16), hexDigit (c.toNat % 16)] := rfl
  have high : Json.hexValue? (hexDigit (c.toNat / 16 % 16)) = some (c.toNat / 16 % 16) :=
    Json.hexValue?_hexDigit (Nat.mod_lt _ (by decide))
  have low : Json.hexValue? (hexDigit (c.toNat % 16)) = some (c.toNat % 16) :=
    Json.hexValue?_hexDigit (Nat.mod_lt _ (by decide))
  have code : 16 * (c.toNat / 16 % 16) + c.toNat % 16 = c.toNat := by omega
  rw [digits]
  simp only [List.cons_append, List.nil_append, readBody, high, low, code, Char.ofNat_toNat]

theorem readBody_escapeChar (c : Char) (rest : List Char) :
    readBody (escapeChar c ++ rest) = readFirst c (readBody rest) := by
  unfold escapeChar
  split
  case h_6 backslash quote _ _ _ =>
    split
    · next control => exact readBody_code control rest
    · exact readBody_plain quote backslash rest
  all_goals rfl

theorem readBody_flatMap (text rest : List Char) :
    readBody (text.flatMap escapeChar ++ '"' :: rest) = some (text, rest) := by
  induction text with
  | nil => rw [List.flatMap_nil, List.nil_append, readBody]
  | cons c text ih =>
    rw [List.flatMap_cons, List.append_assoc, readBody_escapeChar, ih]
    rfl

theorem readLiteral_literal (text : String) (rest : List Char) :
    readLiteral ((literal text).toList ++ rest) = some (text, rest) := by
  have quoted : (literal text).toList ++ rest =
      '"' :: (text.toList.flatMap escapeChar ++ '"' :: rest) := by
    simp [literal, literalChars]
  rw [quoted, readLiteral, readBody_flatMap]
  exact congrArg (fun read => some (read, rest)) String.ofList_toList

end Reading

section Controls

theorem isControl_hexDigit {n : Nat} (h : n < 16) : isControl (hexDigit n) = false := by
  interval_cases n <;> rfl

theorem isControl_of_mem_hex {width n : Nat} {c : Char} (among : c ∈ hex width n) :
    isControl c = false := by
  induction width generalizing n with
  | zero => cases among
  | succ width ih =>
    rcases List.mem_append.mp among with earlier | last
    · exact ih earlier
    · rw [List.mem_singleton.mp last]
      exact isControl_hexDigit (Nat.mod_lt n (by decide))

theorem isControl_of_mem_escapeChar {c d : Char} (among : d ∈ escapeChar c) :
    isControl d = false := by
  unfold escapeChar at among
  split at among
  case h_6 =>
    split at among
    · rcases List.mem_cons.mp among with rfl | code
      · rfl
      · rcases List.mem_cons.mp code with rfl | digit
        · rfl
        · exact isControl_of_mem_hex digit
    · next plain =>
      rw [List.mem_singleton.mp among]
      simpa using plain
  all_goals
    simp only [List.mem_cons, List.not_mem_nil, or_false] at among
    rcases among with rfl | rfl <;> rfl

theorem isControl_of_mem_literal {text : String} {c : Char} (among : c ∈ (literal text).toList) :
    isControl c = false := by
  rw [literal, String.toList_ofList, literalChars, List.mem_append, List.mem_singleton,
    List.mem_cons, List.mem_flatMap] at among
  rcases among with (rfl | ⟨d, _, inside⟩) | rfl
  · rfl
  · exact isControl_of_mem_escapeChar inside
  · rfl

end Controls

/-- The literal of every text stands between quotes on one line, no character in it is a control
character, and whatever follows it, a reader takes just the literal and finds the text. Different
texts have different literals. -/
theorem literal_means_text :
    (∀ text : String,
      (∃ inner, (literal text).toList = '"' :: inner ++ ['"']) ∧
      (∀ c ∈ (literal text).toList, isControl c = false) ∧
      sourceLines (literal text).toList = [(literal text).toList] ∧
      ∀ rest, readLiteral ((literal text).toList ++ rest) = some (text, rest)) ∧
    ∀ text other : String, literal text = literal other ↔ text = other := by
  refine ⟨fun text => ⟨⟨text.toList.flatMap escapeChar, ?_⟩, ?_, ?_, ?_⟩, fun text other => ?_⟩
  · rw [literal, String.toList_ofList, literalChars]
  · exact fun c among => isControl_of_mem_literal among
  · refine sourceLines_eq_singleton (fun among => ?_) (fun among => ?_)
    · cases isControl_of_mem_literal among
    · cases isControl_of_mem_literal among
  · exact readLiteral_literal text
  · refine ⟨fun same => ?_, congrArg literal⟩
    have read := readLiteral_literal text []
    rw [same, readLiteral_literal other []] at read
    exact (Prod.mk.inj (Option.some.inj read)).1.symm

/-- A digit behind an escape is no part of it, and a backslash does not make the quote one. -/
example : literal "\x01\x319\\\x22" = "\"\\x0119\\\\\\\"\"" := by decide +kernel

end JsonBinding.Source
