import JsonBinding.Character.CategoryRows
/-!
The general category of a character, and the properties of characters that names, casing and quoted
text depend on. Each property is derived from the category and a short list of further code points,
as version 15.0 of the Unicode Standard derives it.
-/
namespace JsonBinding.Character

/-- The value of the last row that starts at or before `n`; `found` if none does. Rows ascend. -/
def valueAt {α : Type} (found : α) : List (Nat × α) → Nat → α
  | [], _ => found
  | (first, value) :: rows, n => if n < first then found else valueAt value rows n

def inRanges (ranges : List (Nat × Nat)) (n : Nat) : Bool :=
  ranges.any fun range => range.1 ≤ n && n ≤ range.2

def categoryAt (n : Nat) : Category :=
  valueAt .cn (valueAt [] categoryPages n) n

def category (c : Char) : Category :=
  categoryAt c.toNat

/-- Lower-case letters that are not in category Ll. -/
def otherLowercase : List (Nat × Nat) := [
  (0xAA, 0xAA), (0xBA, 0xBA), (0x2B0, 0x2B8), (0x2C0, 0x2C1), (0x2E0, 0x2E4), (0x345, 0x345),
  (0x37A, 0x37A), (0x10FC, 0x10FC), (0x1D2C, 0x1D6A), (0x1D78, 0x1D78), (0x1D9B, 0x1DBF),
  (0x2071, 0x2071), (0x207F, 0x207F), (0x2090, 0x209C), (0x2170, 0x217F), (0x24D0, 0x24E9),
  (0x2C7C, 0x2C7D), (0xA69C, 0xA69D), (0xA770, 0xA770), (0xA7F2, 0xA7F4), (0xA7F8, 0xA7F9),
  (0xAB5C, 0xAB5F), (0xAB69, 0xAB69), (0x10780, 0x10780), (0x10783, 0x10785), (0x10787, 0x107B0),
  (0x107B2, 0x107BA), (0x1E030, 0x1E06D)]

/-- Upper-case characters that are not in category Lu. -/
def otherUppercase : List (Nat × Nat) := [
  (0x2160, 0x216F), (0x24B6, 0x24CF), (0x1F130, 0x1F149), (0x1F150, 0x1F169), (0x1F170, 0x1F189)]

/-- Characters ignored between the letters of a word that no category tells. -/
def otherCaseIgnorable : List (Nat × Nat) := [
  (0x27, 0x27), (0x2E, 0x2E), (0x3A, 0x3A), (0xB7, 0xB7), (0x387, 0x387), (0x55F, 0x55F),
  (0x5F4, 0x5F4), (0x2018, 0x2019), (0x2024, 0x2024), (0x2027, 0x2027), (0xFE13, 0xFE13),
  (0xFE52, 0xFE52), (0xFE55, 0xFE55), (0xFF07, 0xFF07), (0xFF0E, 0xFF0E), (0xFF1A, 0xFF1A)]

/-- Characters that extend the one before them and are neither nonspacing nor enclosing marks. -/
def otherExtenders : List (Nat × Nat) := [
  (0x9BE, 0x9BE), (0x9D7, 0x9D7), (0xB3E, 0xB3E), (0xB57, 0xB57), (0xBBE, 0xBBE), (0xBD7, 0xBD7),
  (0xCC0, 0xCC0), (0xCC2, 0xCC2), (0xCC7, 0xCC8), (0xCCA, 0xCCB), (0xCD5, 0xCD6), (0xD3E, 0xD3E),
  (0xD57, 0xD57), (0xDCF, 0xDCF), (0xDDF, 0xDDF), (0x1715, 0x1715), (0x1734, 0x1734),
  (0x1B35, 0x1B35), (0x1B3B, 0x1B3B), (0x1B3D, 0x1B3D), (0x1B43, 0x1B44), (0x1BAA, 0x1BAA),
  (0x1BF2, 0x1BF3), (0x200C, 0x200C), (0x302E, 0x302F), (0xA953, 0xA953), (0xA9C0, 0xA9C0),
  (0xFF9E, 0xFF9F), (0x111C0, 0x111C0), (0x11235, 0x11235), (0x1133E, 0x1133E),
  (0x1134D, 0x1134D), (0x11357, 0x11357), (0x114B0, 0x114B0), (0x114BD, 0x114BD),
  (0x115AF, 0x115AF), (0x116B6, 0x116B6), (0x11930, 0x11930), (0x1193D, 0x1193D),
  (0x11F41, 0x11F41), (0x16FF0, 0x16FF1), (0x1D165, 0x1D166), (0x1D16D, 0x1D172),
  (0xE0020, 0xE007F)]

def whiteSpace : List (Nat × Nat) := [
  (0x9, 0xD), (0x20, 0x20), (0x85, 0x85), (0xA0, 0xA0), (0x1680, 0x1680), (0x2000, 0x200A),
  (0x2028, 0x2029), (0x202F, 0x202F), (0x205F, 0x205F), (0x3000, 0x3000)]

def isUppercase (c : Char) : Bool :=
  category c == .lu || inRanges otherUppercase c.toNat

def isLowercase (c : Char) : Bool :=
  category c == .ll || inRanges otherLowercase c.toNat

def isCased (c : Char) : Bool :=
  isUppercase c || isLowercase c || category c == .lt

def isCaseIgnorable (c : Char) : Bool :=
  category c ∈ [.mn, .me, .cf, .lm, .sk] || inRanges otherCaseIgnorable c.toNat

def isNumeric (c : Char) : Bool :=
  category c ∈ [.nd, .nl, .no]

def isWhitespace (c : Char) : Bool :=
  inRanges whiteSpace c.toNat

/-- Whether a character is a control character: below U+0020, or from U+007F to U+009F. -/
def isControl (c : Char) : Bool :=
  c.toNat < 0x20 || 0x7F ≤ c.toNat && c.toNat < 0xA0

def isExtender (c : Char) : Bool :=
  category c ∈ [.mn, .me] || inRanges otherExtenders c.toNat

/-- Whether a character shows on paper; of the separators only the plain space counts. -/
def isPrintable (c : Char) : Bool :=
  c = ' ' || !(category c ∈ [.cc, .cf, .cs, .co, .cn, .zl, .zp, .zs])

end JsonBinding.Character
