import JsonBinding.Json.Token
/-!
JSON values that nobody asked for. Their text is checked to be JSON and nothing more: numbers may be
of any size, and halves of surrogate pairs may stand alone.
-/
namespace JsonBinding.Json

def skipDigits (text : List Char) : Except Fault (List Char) :=
  match takeDigits text with
  | ([], _) => .error .malformed
  | (_, rest) => .ok rest

def skipExponent : List Char → Except Fault (List Char)
  | c :: rest =>
    if c = 'e' || c = 'E' then
      match rest with
      | '+' :: digits => skipDigits digits
      | '-' :: digits => skipDigits digits
      | digits => skipDigits digits
    else .ok (c :: rest)
  | [] => .ok []

def skipUnsigned (text : List Char) : Except Fault (List Char) :=
  match takeDigits text with
  | ([], _) => .error .malformed
  | ('0' :: _ :: _, _) => .error .malformed
  | (_, '.' :: fraction) => do skipExponent (← skipDigits fraction)
  | (_, rest) => skipExponent rest

/-- Drops the characters of a string and the quote that ends it, in at most `steps` steps. -/
def skipChars : (steps : Nat) → List Char → Except Fault (List Char)
  | 0, _ => .error .earlyEnd
  | _ + 1, [] => .error .earlyEnd
  | _ + 1, '"' :: rest => .ok rest
  | _ + 1, ['\\'] => .error .earlyEnd
  | steps + 1, '\\' :: 'u' :: rest => do
    let (_, rest) ← readHex4 rest
    skipChars steps rest
  | steps + 1, '\\' :: c :: rest =>
    if (simpleEscape? c).isSome then skipChars steps rest else .error .malformed
  | steps + 1, c :: rest => if c.toNat < 0x20 then .error .malformed else skipChars steps rest

def skipQuoted (text : List Char) : Except Fault (List Char) :=
  skipChars (text.length + 1) text

def skipKey (text : List Char) : Except Fault (List Char) := do
  expectMark ':' (← skipQuoted (← expectMark '"' text))

mutual

def skipValueIn : (steps : Nat) → List Char → Except Fault (List Char)
  | 0, _ => .error .earlyEnd
  | steps + 1, text =>
    match skipSpace text with
    | [] => .error .earlyEnd
    | 'n' :: rest => expect ['u', 'l', 'l'] rest
    | 't' :: rest => expect ['r', 'u', 'e'] rest
    | 'f' :: rest => expect ['a', 'l', 's', 'e'] rest
    | '"' :: rest => skipQuoted rest
    | '-' :: rest => skipUnsigned rest
    | '[' :: rest =>
      match skipSpace rest with
      | ']' :: rest => .ok rest
      | [] => .error .earlyEnd
      | rest => skipItemsIn steps rest
    | '{' :: rest =>
      match skipSpace rest with
      | '}' :: rest => .ok rest
      | [] => .error .earlyEnd
      | rest => skipEntriesIn steps rest
    | c :: rest => if c.isDigit then skipUnsigned (c :: rest) else .error .malformed

def skipItemsIn : (steps : Nat) → List Char → Except Fault (List Char)
  | 0, _ => .error .earlyEnd
  | steps + 1, text => do
    let rest ← skipValueIn steps text
    match skipSpace rest with
    | [] => throw .earlyEnd
    | ']' :: rest => return rest
    | ',' :: rest => skipItemsIn steps rest
    | _ => throw .malformed

def skipEntriesIn : (steps : Nat) → List Char → Except Fault (List Char)
  | 0, _ => .error .earlyEnd
  | steps + 1, text => do
    let rest ← skipValueIn steps (← skipKey text)
    match skipSpace rest with
    | [] => throw .earlyEnd
    | '}' :: rest => return rest
    | ',' :: rest => skipEntriesIn steps rest
    | _ => throw .malformed

end

/-- Drops a value. Every step of the way reads a character or opens what one character opened. -/
def skipValue (text : List Char) : Except Fault (List Char) :=
  skipValueIn (2 * text.length + 2) text

end JsonBinding.Json
