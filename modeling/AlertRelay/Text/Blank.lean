/-!
# Blanks

The characters with the Unicode property `White_Space`, and texts without the blanks around them.
-/

namespace AlertRelay

/-- The ranges of the Unicode property `White_Space`. -/
def blankRanges : List (Nat × Nat) :=
  [(0x09, 0x0d), (0x20, 0x20), (0x85, 0x85), (0xa0, 0xa0), (0x1680, 0x1680), (0x2000, 0x200a),
    (0x2028, 0x2029), (0x202f, 0x202f), (0x205f, 0x205f), (0x3000, 0x3000)]

/-- Whether a character is a blank. -/
def isBlank (c : Char) : Bool :=
  blankRanges.any fun (first, last) => first ≤ c.toNat && c.toNat ≤ last

/-- The characters after the leading blanks. -/
def dropBlanks (s : List Char) : List Char := s.dropWhile isBlank

/-- The characters between the leading and the trailing blanks. -/
def trimBlanks (s : List Char) : List Char :=
  (dropBlanks (dropBlanks s).reverse).reverse

/-- A text without the blanks around it. -/
def trimText (s : String) : String := String.ofList (trimBlanks s.toList)

end AlertRelay
