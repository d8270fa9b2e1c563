import AlertRelay.Number.Shortest

/-!
# Texts of a double

Three ways to write a double: the one of JSON documents, plain notation without an exponent, and a
fixed number of places. Each is a layout over the parts of the number; none of them starts from a
rounded text.
-/

namespace AlertRelay

/-- How the shortest digits of a finite double are set out. -/
structure NumberLayout where
  /-- Which of two equally near shortest decimals is written. -/
  tie : TieRule
  /-- Whether a whole number keeps a point and a zero. -/
  wholePoint : Bool
  /-- The exponents of the first digit that are written without an exponent; `none` is all. -/
  positional : Option (Int × Int)
  deriving Inhabited

/-- Numbers of JSON documents always have a point, and an exponent below `0.00001` and from `10^16`
upwards. -/
def NumberLayout.json : NumberLayout := ⟨.even, true, some (-5, 15)⟩

/-- Numbers of messages and of the metrics page have no exponent, and a point only where places
follow. -/
def NumberLayout.plain : NumberLayout := ⟨.up, false, none⟩

namespace NumberLayout

/-- The text of a positive decimal. -/
def decimalText (layout : NumberLayout) (d : Decimal) : List Char :=
  match layout.positional with
  | none => d.positional layout.wholePoint
  | some (least, greatest) =>
    if least ≤ d.leading ∧ d.leading ≤ greatest then d.positional layout.wholePoint
    else d.scientific

/-- The text of a finite double. -/
def finiteText (layout : NumberLayout) (negative : Bool) (significand : Nat) (exponent : Int) :
    String :=
  let magnitude :=
    if significand == 0 then layout.decimalText ⟨0, 0⟩
    else layout.decimalText (Decimal.shortest layout.tie significand exponent)
  String.ofList (if negative then '-' :: magnitude else magnitude)

end NumberLayout

namespace Binary64

/-- The text of a double in a JSON document; what is not finite has no number there. -/
def jsonText : Binary64 → String
  | .nan | .infinite _ => "null"
  | .finite negative significand exponent =>
    NumberLayout.json.finiteText negative significand exponent

/-- The text of a double in plain notation. -/
def plainText : Binary64 → String
  | .nan => "NaN"
  | .infinite false => "inf"
  | .infinite true => "-inf"
  | .finite negative significand exponent =>
    NumberLayout.plain.finiteText negative significand exponent

/-- The quotient of two natural numbers, rounded to the nearest whole number; a half goes to the
even neighbour. -/
def roundQuotient (top bottom : Nat) : Nat :=
  let below := top / bottom
  let remainder := top % bottom
  if 2 * remainder < bottom then below
  else if bottom < 2 * remainder then below + 1
  else if below % 2 == 0 then below else below + 1

/-- The text of a double with exactly `places` digits after the point, rounded from its exact
value. -/
def fixedText (places : Nat) : Binary64 → String
  | .nan => "NaN"
  | .infinite false => "inf"
  | .infinite true => "-inf"
  | .finite negative significand exponent =>
    let units := roundQuotient (significand * pow2 exponent.toNat * pow10 places)
      (pow2 (-exponent).toNat)
    let whole := Nat.toDigits 10 (units / pow10 places)
    let rest := Nat.toDigits 10 (units % pow10 places)
    let fraction := if places == 0 then []
      else '.' :: List.replicate (places - rest.length) '0' ++ rest
    String.ofList ((if negative then ['-'] else []) ++ whole ++ fraction)

end Binary64

end AlertRelay
