/-!
Floating point numbers as decimal text. Of all decimals that read back as a given number, the text
shows one with the fewest digits, and of those the nearest. It is found on the coarsest grid of
tenths, ones, tens and so on that has a point close enough to the number.
-/
namespace JsonBinding

/-- The positive decimal `digits · 10 ^ exponent`. -/
structure Decimal where
  digits : Nat
  exponent : Int
  deriving DecidableEq, Repr

namespace Decimal

/-- A positive number together with the interval of the numbers that are rounded to it. All three
are counted in units of `2 ^ -1076`. -/
structure Rounding where
  low : Nat
  value : Nat
  high : Nat
  /-- Whether the ends of the interval belong to it. -/
  closed : Bool
  deriving DecidableEq, Repr

def unitsInOne : Nat :=
  Nat.pow 2 1076

def leastSignificand : Nat :=
  Nat.pow 2 52

/-- The interval around `significand · 2 ^ (power - 1074)`. Below the least significand of its
length, the next number is only half as far away. -/
def Rounding.ofBinary (significand power : Nat) : Rounding where
  low := significand * Nat.pow 2 (power + 2) -
    Nat.pow 2 (if significand = leastSignificand ∧ power ≠ 0 then power else power + 1)
  value := significand * Nat.pow 2 (power + 2)
  high := significand * Nat.pow 2 (power + 2) + Nat.pow 2 (power + 1)
  closed := significand % 2 = 0

def Rounding.holds (r : Rounding) (num den n : Nat) : Bool :=
  if r.closed then r.low * den ≤ n * num && n * num ≤ r.high * den
  else r.low * den < n * num && n * num < r.high * den

/-- The nearer of the two points around the value on the grid of width `num / den`, if it lies in
the interval, else the other one. -/
def Rounding.pointOn? (r : Rounding) (num den : Nat) : Option Nat :=
  let below := r.value * den / num
  let above := below + 1
  let candidates :=
    if r.value * den - below * num ≤ above * num - r.value * den then [below, above]
    else [above, below]
  candidates.find? (r.holds num den)

/-- The first decimal found on the grids of width `10 ^ exponent` and of the next finer ones. -/
def Rounding.search (r : Rounding) : (steps : Nat) → (exponent : Int) → Option Decimal
  | 0, _ => none
  | steps + 1, exponent =>
    match r.pointOn? (Nat.pow 10 exponent.toNat * unitsInOne) (Nat.pow 10 (-exponent).toNat) with
    | some digits => some ⟨digits, exponent⟩
    | none => r.search steps (exponent - 1)

/-- The shortest decimal that reads back; grids from `10 ^ 309` to `10 ^ -340` suffice. -/
def Rounding.shortest? (r : Rounding) : Option Decimal :=
  r.search 650 309

/-- Whether a decimal whose first digit stands for `10 ^ magnitude` is written without exponent. -/
def isPositional (magnitude : Int) : Bool :=
  -5 ≤ magnitude && magnitude ≤ 15

def text (d : Decimal) : String :=
  let digits := Nat.toDigits 10 d.digits
  let magnitude := d.exponent + digits.length - 1
  String.ofList <|
    if isPositional magnitude then
      if 0 ≤ d.exponent then digits ++ List.replicate d.exponent.toNat '0' ++ ['.', '0']
      else if 0 ≤ magnitude then
        digits.take (magnitude.toNat + 1) ++ '.' :: digits.drop (magnitude.toNat + 1)
      else '0' :: '.' :: List.replicate (-magnitude - 1).toNat '0' ++ digits
    else
      digits.take 1 ++ (if digits.length = 1 then [] else '.' :: digits.drop 1) ++
        'e' :: (if magnitude < 0 then '-' else '+') :: Nat.toDigits 10 magnitude.natAbs

end Decimal

def floatText (f : Float) : String :=
  let bits := f.toBits
  let sign := if bits >>> 63 = 0 then "" else "-"
  let power := (bits >>> 52 &&& 0x7FF).toNat
  let fraction := (bits &&& 0xFFFFFFFFFFFFF).toNat
  let rounding :=
    if power = 0 then Decimal.Rounding.ofBinary fraction 0
    else Decimal.Rounding.ofBinary (fraction + Decimal.leastSignificand) (power - 1)
  if rounding.value = 0 then sign ++ "0.0"
  else sign ++ (rounding.shortest?.map Decimal.text).getD ""

end JsonBinding
