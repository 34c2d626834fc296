import JsonBinding.Json.Token
import JsonBinding.Json.Writer
import Mathlib.Tactic.IntervalCases
/-!
Tokens that are written are read back: a string of any characters (`reads_quoted`), a truth value
(`reads_boolean`) and a number of 32 bits (`reads_number`). A number ends where its digits end, so
what is said of a reader is said of what may stand after a value only.
-/
namespace JsonBinding.Json

variable {α β : Type}

@[simp] theorem ok_bind (value : α) (next : α → Except Fault β) :
    (Except.ok value >>= next) = next value := rfl

/-- What may stand after a value: the end of the text, or the mark before what comes next. -/
inductive Ends : List Char → Prop
  | text : Ends []
  | comma (rest : List Char) : Ends (',' :: rest)
  | bracket (rest : List Char) : Ends (']' :: rest)
  | brace (rest : List Char) : Ends ('}' :: rest)

/-- A text starts with a character that is neither space nor the end of an array. -/
def Opens (text : List Char) : Prop :=
  ∃ c tail, text = c :: tail ∧ isSpace c = false ∧ c ≠ ']'

/-- A reader takes a text for a value, and no more than the text, whatever may follow it. -/
structure Reads (read : List Char → Except Fault (α × List Char)) (text : List Char) (value : α) :
    Prop where
  opens : Opens text
  reads : ∀ {rest : List Char}, Ends rest → read (text ++ rest) = .ok (value, rest)

theorem Reads.map {read : List Char → Except Fault (α × List Char)} {text : List Char} {value : α}
    (h : Reads read text value) (f : α → β) :
    Reads (fun text => (read text).map fun (v, rest) => (f v, rest)) text (f value) where
  opens := h.opens
  reads ends := by rw [h.reads ends]; rfl

theorem skipSpace_cons {c : Char} (h : isSpace c = false) (rest : List Char) :
    skipSpace (c :: rest) = c :: rest := by
  simp [skipSpace, h]

theorem expectMark_cons (mark : Char) (h : isSpace mark = false) (rest : List Char) :
    expectMark mark (mark :: rest) = .ok rest := by
  simp [expectMark, skipSpace_cons h]

theorem readToken_cons {expected : String}
    {read : Char → List Char → Option (Except Fault (α × List Char))} {c : Char}
    {rest : List Char} {result : Except Fault (α × List Char)} (solid : isSpace c = false)
    (taken : read c rest = some result) : readToken expected read (c :: rest) = result := by
  simp [readToken, skipSpace_cons solid, taken]

section Strings

theorem hexValue?_hexDigit {n : Nat} (h : n < 16) : hexValue? (Text.hexDigit n) = some n := by
  interval_cases n <;> rfl

theorem readHex4_hex {n : Nat} (h : n < 0x10000) (rest : List Char) :
    readHex4 (Text.hex 4 n ++ rest) = .ok (n, rest) := by
  have digit (k : Nat) : hexValue? (Text.hexDigit (k % 16)) = some (k % 16) :=
    hexValue?_hexDigit (Nat.mod_lt _ (by decide))
  have sum : ((n / 16 / 16 / 16 % 16 * 16 + n / 16 / 16 % 16) * 16 + n / 16 % 16) * 16 + n % 16 =
      n := by omega
  simp [readHex4, Text.hex, hexValue4?, digit, sum]

theorem readChars_escapeChar (steps : Nat) (c : Char) (rest : List Char) :
    readChars (steps + 1) (escapeChar c ++ rest) =
      (readChars steps rest).map fun (chars, rest) => (c :: chars, rest) := by
  have escaped {text : List Char} (h : readEscape text = .ok (c, rest)) :
      readChars (steps + 1) ('\\' :: text) =
        (readChars steps rest).map fun (chars, rest) => (c :: chars, rest) := by
    simp only [readChars, h, ok_bind]
    cases readChars steps rest <;> rfl
  unfold escapeChar
  split
  case h_8 quote backslash _ _ _ _ _ =>
    split
    next control =>
      have number : readHex4 (Text.hex 4 c.toNat ++ rest) = .ok (c.toNat, rest) :=
        readHex4_hex (by omega) rest
      have low : isTrailing c.toNat = false ∧ isLeading c.toNat = false := by
        simp only [isTrailing, isLeading, Bool.and_eq_false_iff, decide_eq_false_iff_not]
        omega
      have scalar : readUnicodeEscape (Text.hex 4 c.toNat ++ rest) = .ok (c, rest) := by
        simp [readUnicodeEscape, number, low, pure, Except.pure]
      exact escaped scalar
    next printed =>
      rw [List.singleton_append, readChars, if_neg printed]
      · cases readChars steps rest <;> rfl
      · exact quote
      · exact backslash
  all_goals exact escaped rfl

theorem readChars_flatMap (chars rest : List Char) {steps : Nat} (enough : chars.length < steps) :
    readChars steps (chars.flatMap escapeChar ++ '"' :: rest) = .ok (chars, rest) := by
  induction chars generalizing steps with
  | nil =>
    obtain ⟨steps, rfl⟩ := Nat.exists_eq_succ_of_ne_zero (Nat.ne_of_gt enough)
    rfl
  | cons c chars ih =>
    rw [List.length_cons] at enough
    obtain ⟨steps, rfl⟩ := Nat.exists_eq_succ_of_ne_zero (Nat.ne_zero_of_lt enough)
    rw [List.flatMap_cons, List.append_assoc, readChars_escapeChar, ih (by omega)]
    rfl

theorem length_le_flatMap_escapeChar (chars : List Char) :
    chars.length ≤ (chars.flatMap escapeChar).length := by
  induction chars with
  | nil => exact Nat.le_refl 0
  | cons c chars ih =>
    have nonempty : 0 < (escapeChar c).length := by
      unfold escapeChar
      split <;> try exact Nat.zero_lt_succ _
      split <;> exact Nat.zero_lt_succ _
    rw [List.flatMap_cons, List.length_append, List.length_cons]
    omega

/-- A string is read back: every character takes up at least one in the text, so there are steps
enough. -/
theorem readQuoted_quoted (text : String) (rest : List Char) :
    readQuoted (text.toList.flatMap escapeChar ++ '"' :: rest) = .ok (text, rest) := by
  have enough : text.toList.length <
      (text.toList.flatMap escapeChar ++ '"' :: rest).length + 1 := by
    have := length_le_flatMap_escapeChar text.toList
    rw [List.length_append]
    omega
  simp only [readQuoted, readChars_flatMap text.toList rest enough, ok_bind, String.ofList_toList]
  rfl

theorem quoted_append (text : String) (rest : List Char) :
    quoted text ++ rest = '"' :: (text.toList.flatMap escapeChar ++ '"' :: rest) := by
  simp [quoted]

theorem opens_quoted (text : String) : Opens (quoted text) :=
  ⟨'"', _, rfl, rfl, by decide⟩

theorem readStringAs_quoted (expected text : String) (rest : List Char) :
    readStringAs expected (quoted text ++ rest) = .ok (text, rest) := by
  rw [quoted_append]
  exact readToken_cons rfl (congrArg some (readQuoted_quoted text rest))

theorem reads_quoted (text : String) : Reads readString (quoted text) text where
  opens := opens_quoted text
  reads _ := readStringAs_quoted _ text _

end Strings

theorem reads_boolean (b : Bool) : Reads readBoolean (boolean b) b where
  opens := by
    cases b
    · exact ⟨'f', _, rfl, rfl, by decide⟩
    · exact ⟨'t', _, rfl, rfl, by decide⟩
  reads _ := by
    cases b
    · exact readToken_cons rfl rfl
    · exact readToken_cons rfl rfl

section Numbers

theorem number_ne_nil (n : Nat) : number n ≠ [] :=
  Nat.toDigits_ne_nil

theorem isDigit_of_mem_number {n : Nat} {c : Char} (h : c ∈ number n) : c.isDigit :=
  Nat.isDigit_of_mem_toDigits (by decide) (by decide) h

theorem head?_number_ne {n : Nat} (positive : 0 < n) : (number n).head? ≠ some '0' := by
  induction n using Nat.strongRecOn with
  | ind n ih =>
    rcases Nat.lt_or_ge n 10 with small | large
    · rw [number, Nat.toDigits_of_lt_base small, List.head?_cons]
      intro zero
      exact Nat.ne_of_gt positive (Nat.digitChar_eq_zero.mp (Option.some.inj zero))
    · have shorter := ih (n / 10) (by omega) (by omega)
      have split : number n = number (n / 10) ++ [Nat.digitChar (n % 10)] :=
        Nat.toDigits_of_base_le (by decide) large
      obtain ⟨c, rest, written⟩ := List.exists_cons_of_ne_nil (number_ne_nil (n / 10))
      rw [written] at shorter
      rwa [split, written]

theorem takeDigits_number (n : Nat) {rest : List Char} (ends : Ends rest) :
    takeDigits (number n ++ rest) = (number n, rest) := by
  have stops : rest.takeWhile Char.isDigit = [] ∧ rest.dropWhile Char.isDigit = rest := by
    cases ends <;> exact ⟨rfl, rfl⟩
  have digits : ∀ c ∈ number n, c.isDigit := fun _ => isDigit_of_mem_number
  rw [takeDigits, List.takeWhile_append_of_pos digits, List.dropWhile_append_of_pos digits,
    stops.1, stops.2, List.append_nil]

theorem accumulate_eq {digits : List Char} {significand : Nat}
    (bound : Nat.ofDigitChars 10 digits significand < UInt64.size) :
    accumulate significand digits = (Nat.ofDigitChars 10 digits significand, []) := by
  induction digits generalizing significand with
  | nil => simp [accumulate]
  | cons c rest ih =>
    have next : significand * 10 + digitValue c = 10 * significand + (c.toNat - '0'.toNat) := by
      rw [digitValue, Nat.mul_comm]
    rw [Nat.ofDigitChars_cons] at bound ⊢
    have fits : significand * 10 + digitValue c < UInt64.size := by
      rw [next]
      rw [Nat.ofDigitChars_eq_ofDigitChars_zero] at bound
      refine Nat.lt_of_le_of_lt ?_ bound
      exact (Nat.le_mul_of_pos_left _ (Nat.pow_pos (by decide))).trans (Nat.le_add_right _ _)
    simp only [accumulate, if_pos fits]
    rw [next]
    exact ih bound

theorem readUnsigned_number {n : Nat} (bound : n < UInt64.size) {rest : List Char}
    (ends : Ends rest) : readUnsigned false (number n ++ rest) = .ok (.integer n, rest) := by
  have value : accumulate 0 (number n) = (n, []) := by
    have same : Nat.ofDigitChars 10 (number n) 0 = n := Nat.ofDigitChars_ten_toDigits
    rw [accumulate_eq (by rwa [same]), same]
  have unpadded (c : Char) (tail : List Char) : number n ≠ '0' :: c :: tail := by
    intro written
    rcases Nat.eq_zero_or_pos n with rfl | positive
    · cases written
    · exact head?_number_ne positive (by rw [written]; rfl)
  rw [readUnsigned, takeDigits_number n ends]
  split
  case h_1 _ _ e => exact absurd (congrArg Prod.fst e) (number_ne_nil n)
  case h_2 _ _ _ _ e => exact absurd (congrArg Prod.fst e) (unpadded _ _)
  case h_3 e =>
    cases e
    rw [value]
    cases ends <;> rfl

theorem reads_number {n : Nat} (bound : n < UInt32.size) :
    Reads readNatural32 (number n) n := by
  obtain ⟨c, tail, written⟩ := List.exists_cons_of_ne_nil (number_ne_nil n)
  have digit : c.isDigit := isDigit_of_mem_number (written ▸ List.mem_cons_self)
  have unsigned : c ≠ '-' := by
    rintro rfl
    cases digit
  have solid : isSpace c = false := by
    simp only [isSpace, Bool.or_eq_false_iff, decide_eq_false_iff_not]
    refine ⟨⟨⟨?_, ?_⟩, ?_⟩, ?_⟩ <;> (rintro rfl; cases digit)
  refine ⟨⟨c, tail, written, solid, ?_⟩, ?_⟩
  · rintro rfl
    cases digit
  · intro rest ends
    have whole : readNumber (c :: (tail ++ rest)) = .ok (.integer n, rest) := by
      rw [readNumber, ← List.cons_append, ← written]
      · exact readUnsigned_number (bound.trans (by decide)) ends
      · exact fun _ e => unsigned (List.cons.inj e).1
    have small : natural32 (.integer n) = .ok n := if_pos bound
    rw [written, List.cons_append]
    apply readToken_cons solid
    simp only [digit, Bool.or_true, if_true, whole, ok_bind, small]
    rfl

end Numbers

end JsonBinding.Json
