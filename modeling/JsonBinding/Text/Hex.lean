/-!
Numbers written with lower-case hexadecimal digits.
-/
namespace JsonBinding.Text

def hexDigit (n : Nat) : Char :=
  if n < 10 then Char.ofNat ('0'.toNat + n) else Char.ofNat ('a'.toNat + (n - 10))

/-- The last `width` hexadecimal digits of a number, with leading zeros. -/
def hex : (width : Nat) → Nat → List Char
  | 0, _ => []
  | width + 1, n => hex width (n / 16) ++ [hexDigit (n % 16)]

/-- The number of hexadecimal digits that a number needs, at least one and at most `bound`. -/
def hexWidth : (bound : Nat) → Nat → Nat
  | 0, _ => 1
  | bound + 1, n => if n < 16 then 1 else hexWidth bound (n / 16) + 1

end JsonBinding.Text
