import JsonBinding.Json.Fault
/-!
Numbers in JSON text. Integers of 64 bits are kept as they are; all other numbers are floating point
numbers, made of the leading digits that fit 64 bits and a power of ten.
-/
namespace JsonBinding.Json

inductive Number
  | integer (i : Int)
  | floating (f : Float)

def Number.found : Number → Found
  | integer i => .integer i
  | floating f => .floating f

def takeDigits (text : List Char) : List Char × List Char :=
  (text.takeWhile Char.isDigit, text.dropWhile Char.isDigit)

def digitValue (c : Char) : Nat :=
  c.toNat - '0'.toNat

def digitsValue (digits : List Char) : Nat :=
  digits.foldl (fun n c => n * 10 + digitValue c) 0

/-- Appends digits to a significand as long as it fits 64 bits, and tells which are left over. -/
def accumulate (significand : Nat) : List Char → Nat × List Char
  | [] => (significand, [])
  | c :: rest =>
    let next := significand * 10 + digitValue c
    if next < UInt64.size then accumulate next rest else (significand, c :: rest)

def powerOfTen (exponent : Nat) : Float :=
  Float.ofScientific 1 false exponent

/-- The floating point number `significand · 10 ^ exponent`, rounded at every operation; `none` if
it is too large. Any significand is gone after two divisions by `10 ^ 308`. -/
def scaled? (significand : Nat) (exponent : Int) : Option Float :=
  let f := Float.ofNat significand
  match exponent with
  | .ofNat e =>
    if e ≤ 308 then
      let scaled := f * powerOfTen e
      if scaled.isInf then none else some scaled
    else if significand = 0 then some 0.0
    else none
  | .negSucc d =>
    let e := d + 1
    some <|
      if e ≤ 308 then f / powerOfTen e
      else if e ≤ 616 then f / powerOfTen 308 / powerOfTen (e - 308)
      else 0.0

def missingDigit (rest : List Char) : Fault :=
  if rest.isEmpty then .earlyEnd else .malformed

def readFloating (negative : Bool) (significand : Nat) (exponent : Int) (rest : List Char) :
    Except Fault (Number × List Char) :=
  match scaled? significand exponent with
  | some f => .ok (.floating (if negative then -f else f), rest)
  | none => .error .malformed

def readExponentDigits (negative : Bool) (significand : Nat) (exponent : Int)
    (exponentNegative : Bool) (text : List Char) : Except Fault (Number × List Char) :=
  match takeDigits text with
  | ([], rest) => .error (missingDigit rest)
  | (digits, rest) =>
    let shift : Int := digitsValue digits
    readFloating negative significand
      (if exponentNegative then exponent - shift else exponent + shift) rest

def readExponent (negative : Bool) (significand : Nat) (exponent : Int) :
    List Char → Except Fault (Number × List Char)
  | '+' :: rest => readExponentDigits negative significand exponent false rest
  | '-' :: rest => readExponentDigits negative significand exponent true rest
  | rest => readExponentDigits negative significand exponent false rest

def readScale (negative : Bool) (significand : Nat) (exponent : Int) :
    List Char → Except Fault (Number × List Char)
  | 'e' :: rest => readExponent negative significand exponent rest
  | 'E' :: rest => readExponent negative significand exponent rest
  | rest => readFloating negative significand exponent rest

def readFraction (negative : Bool) (significand : Nat) (exponent : Int) (text : List Char) :
    Except Fault (Number × List Char) :=
  match takeDigits text with
  | ([], rest) => .error (missingDigit rest)
  | (digits, rest) =>
    let (grown, left) := accumulate significand digits
    readScale negative grown (exponent - (digits.length - left.length : Nat)) rest

/-- A number without fraction and exponent. Zero with a sign, and what is below the integers of 64
bits, is a floating point number. -/
def wholeNumber (negative : Bool) (n : Nat) : Number :=
  if negative then
    if n = 0 ∨ 0x8000000000000000 < n then .floating (-(Float.ofNat n)) else .integer (-n)
  else .integer n

def readUnsigned (negative : Bool) (text : List Char) : Except Fault (Number × List Char) :=
  match takeDigits text with
  | ([], rest) => .error (missingDigit rest)
  | ('0' :: _ :: _, _) => .error .malformed
  | (digits, rest) =>
    let (significand, left) := accumulate 0 digits
    match rest with
    | '.' :: fraction => readFraction negative significand left.length fraction
    | rest =>
      if left.isEmpty && !rest.head?.any (fun c => c = 'e' || c = 'E') then
        .ok (wholeNumber negative significand, rest)
      else readScale negative significand left.length rest

def readNumber : List Char → Except Fault (Number × List Char)
  | '-' :: rest => readUnsigned true rest
  | text => readUnsigned false text

end JsonBinding.Json
