import JsonBinding.Json.Number
/-!
The tokens of JSON text. Each function takes the text from some point on and gives back what it read
with the text after it, or the first thing that is wrong.
-/
namespace JsonBinding.Json

def isSpace (c : Char) : Bool :=
  c = ' ' || c = '\t' || c = '\n' || c = '\r'

def skipSpace (text : List Char) : List Char :=
  text.dropWhile isSpace

def expect : List Char → List Char → Except Fault (List Char)
  | [], rest => .ok rest
  | _ :: _, [] => .error .earlyEnd
  | e :: expected, c :: rest => if c = e then expect expected rest else .error .malformed

def expectMark (mark : Char) (text : List Char) : Except Fault (List Char) :=
  match skipSpace text with
  | [] => .error .earlyEnd
  | c :: rest => if c = mark then .ok rest else .error .malformed

def hexValue? (c : Char) : Option Nat :=
  if '0' ≤ c && c ≤ '9' then some (c.toNat - '0'.toNat)
  else if 'a' ≤ c && c ≤ 'f' then some (c.toNat - 'a'.toNat + 10)
  else if 'A' ≤ c && c ≤ 'F' then some (c.toNat - 'A'.toNat + 10)
  else none

def hexValue4? (a b c d : Char) : Option Nat := do
  return (((← hexValue? a) * 16 + (← hexValue? b)) * 16 + (← hexValue? c)) * 16 + (← hexValue? d)

/-- The number of bytes that a text takes. -/
def utf8Length (text : List Char) : Nat :=
  text.foldl (fun n c => n + c.utf8Size) 0

/-- Reads four hexadecimal digits. A rest of fewer than four bytes is cut short, whatever it is. -/
def readHex4 : List Char → Except Fault (Nat × List Char)
  | a :: b :: c :: d :: rest =>
    match hexValue4? a b c d with
    | some n => .ok (n, rest)
    | none => .error .malformed
  | rest => .error (if utf8Length rest < 4 then .earlyEnd else .malformed)

/-- Whether a number is the first half of a surrogate pair. -/
def isLeading (n : Nat) : Bool :=
  0xD800 ≤ n && n ≤ 0xDBFF

/-- Whether a number is the second half of a surrogate pair. -/
def isTrailing (n : Nat) : Bool :=
  0xDC00 ≤ n && n ≤ 0xDFFF

def readTrailing (leading : Nat) (text : List Char) : Except Fault (Char × List Char) := do
  let text ← expect ['\\', 'u'] text
  let (trailing, rest) ← readHex4 text
  if isTrailing trailing then
    return (Char.ofNat ((leading - 0xD800) * 0x400 + (trailing - 0xDC00) + 0x10000), rest)
  else
    throw .malformed

def readUnicodeEscape (text : List Char) : Except Fault (Char × List Char) := do
  let (n, rest) ← readHex4 text
  if isTrailing n then throw .malformed
  else if isLeading n then readTrailing n rest
  else return (Char.ofNat n, rest)

def simpleEscape? : Char → Option Char
  | '"' => some '"'
  | '\\' => some '\\'
  | '/' => some '/'
  | 'b' => some '\x08'
  | 'f' => some '\x0c'
  | 'n' => some '\n'
  | 'r' => some '\r'
  | 't' => some '\t'
  | _ => none

def readEscape : List Char → Except Fault (Char × List Char)
  | [] => .error .earlyEnd
  | 'u' :: rest => readUnicodeEscape rest
  | c :: rest =>
    match simpleEscape? c with
    | some escaped => .ok (escaped, rest)
    | none => .error .malformed

/-- Reads the characters of a string and the quote that ends it, in at most `steps` steps. -/
def readChars : (steps : Nat) → List Char → Except Fault (List Char × List Char)
  | 0, _ => .error .earlyEnd
  | _ + 1, [] => .error .earlyEnd
  | _ + 1, '"' :: rest => .ok ([], rest)
  | steps + 1, '\\' :: rest => do
    let (c, rest) ← readEscape rest
    let (chars, rest) ← readChars steps rest
    return (c :: chars, rest)
  | steps + 1, c :: rest =>
    if c.toNat < 0x20 then .error .malformed
    else do
      let (chars, rest) ← readChars steps rest
      return (c :: chars, rest)

def readQuoted (text : List Char) : Except Fault (String × List Char) := do
  let (chars, rest) ← readChars (text.length + 1) text
  return (String.ofList chars, rest)

/-- The next token, as messages name it. -/
def found : List Char → Except Fault Found
  | 'n' :: rest => do
    let _ ← expect ['u', 'l', 'l'] rest
    return .null
  | 't' :: rest => do
    let _ ← expect ['r', 'u', 'e'] rest
    return .boolean true
  | 'f' :: rest => do
    let _ ← expect ['a', 'l', 's', 'e'] rest
    return .boolean false
  | '"' :: rest => do
    let (text, _) ← readQuoted rest
    return .string text
  | '[' :: _ => return .sequence
  | '{' :: _ => return .map
  | c :: rest =>
    if c = '-' || c.isDigit then do
      let (number, _) ← readNumber (c :: rest)
      return number.found
    else throw .malformed
  | [] => throw .malformed

def wrongType (expected : String) (text : List Char) : Fault :=
  match found text with
  | .ok found => .form (.invalidType found expected)
  | .error fault => fault

/-- Reads what follows space, by its first character; `read` gives `none` to refuse it. -/
def readToken {α : Type} (expected : String)
    (read : Char → List Char → Option (Except Fault (α × List Char))) (text : List Char) :
    Except Fault (α × List Char) :=
  match skipSpace text with
  | [] => .error .earlyEnd
  | c :: rest => (read c rest).getD (.error (wrongType expected (c :: rest)))

/-- Reads a string that stands for what messages call `expected`. -/
def readStringAs (expected : String) : List Char → Except Fault (String × List Char) :=
  readToken expected fun c rest => if c = '"' then some (readQuoted rest) else none

def readString : List Char → Except Fault (String × List Char) :=
  readStringAs "a string"

def readBoolean : List Char → Except Fault (Bool × List Char) :=
  readToken "a boolean" fun c rest =>
    if c = 't' then some ((expect ['r', 'u', 'e'] rest).map (true, ·))
    else if c = 'f' then some ((expect ['a', 'l', 's', 'e'] rest).map (false, ·))
    else none

def readNull : List Char → Except Fault (Unit × List Char) :=
  readToken "unit" fun c rest =>
    if c = 'n' then some ((expect ['u', 'l', 'l'] rest).map ((), ·)) else none

/-- The natural number of 32 bits that a number is. -/
def natural32 : Number → Except Fault Nat
  | .integer (.ofNat n) =>
    if n < UInt32.size then .ok n else .error (.form (.invalidValue (.integer n) "u32"))
  | .integer i => .error (.form (.invalidValue (.integer i) "u32"))
  | .floating f => .error (.form (.invalidType (.floating f) "u32"))

def readNatural32 : List Char → Except Fault (Nat × List Char) :=
  readToken "u32" fun c rest =>
    if c = '-' || c.isDigit then
      some do
        let (number, rest) ← readNumber (c :: rest)
        return (← natural32 number, rest)
    else none

end JsonBinding.Json
