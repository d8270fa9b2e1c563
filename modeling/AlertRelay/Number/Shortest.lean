import AlertRelay.Number.Binary64

/-!
# The shortest decimal of a double

`Decimal.shortest` gives the decimal with the fewest digits among those that read back as the same
double, and of these the nearest. Only the two neighbours of the value on each decimal grid are
tested, in exact arithmetic: if a grid has a point in the rounding interval, one of the value's two
neighbours on that grid is such a point.
-/

namespace AlertRelay

/-- A positive decimal number `digits * 10 ^ exponent`. -/
structure Decimal where
  digits : Nat
  exponent : Int
  deriving DecidableEq, Inhabited

/-- Which of two equally near decimals is taken. -/
inductive TieRule where
  | even
  | up
  deriving DecidableEq, Inhabited

namespace Decimal

/-- A number of the form `mantissa * 2 ^ binary`, compared with decimals by cross-multiplication. -/
structure Scaled where
  mantissa : Nat
  binary : Int

/-- The two natural numbers whose quotient is the scaled number divided by `10 ^ decimal`. -/
def Scaled.ratio (x : Scaled) (decimal : Int) : Nat × Nat :=
  (x.mantissa * pow2 x.binary.toNat * pow10 (-decimal).toNat,
    pow2 (-x.binary).toNat * pow10 decimal.toNat)

/-- Whether `10 ^ decimal` is at most the scaled number. -/
def Scaled.reaches (x : Scaled) (decimal : Int) : Bool :=
  let (top, bottom) := x.ratio decimal
  decide (bottom ≤ top)

/-- The decimal exponent `k` with `10 ^ k ≤ x < 10 ^ (k + 1)`, from the binary length of the
mantissa, corrected by one where that estimate is off. -/
def Scaled.magnitude (x : Scaled) : Int :=
  let estimate := (((Nat.log2 x.mantissa : Nat) : Int) + x.binary) * 30103 / 100000
  if x.reaches (estimate + 1) then estimate + 1
  else if x.reaches estimate then estimate
  else estimate - 1

/-- Drops the zeros at the end of the digits. -/
def stripZeros (fuel : Nat) (d : Decimal) : Decimal :=
  match fuel with
  | 0 => d
  | fuel + 1 =>
    if d.digits != 0 && d.digits % 10 == 0 then
      stripZeros fuel ⟨d.digits / 10, d.exponent + 1⟩
    else d

/-- The nearest point of the decimal grid with step `10 ^ decimal` to `center` that lies between
`low` and `high`, if there is one; the ends of the interval count only when `closed`. -/
def gridPoint (tie : TieRule) (closed : Bool) (low center high : Scaled) (decimal : Int) :
    Option Decimal :=
  let (top, bottom) := center.ratio decimal
  let below := top / bottom
  let (lowTop, lowBottom) := low.ratio decimal
  let (highTop, highBottom) := high.ratio decimal
  let belowFits := if closed then decide (lowTop ≤ below * lowBottom)
    else decide (lowTop < below * lowBottom)
  let above := below + 1
  let aboveFits := if closed then decide (above * highBottom ≤ highTop)
    else decide (above * highBottom < highTop)
  let remainder := top % bottom
  let point :=
    match belowFits, aboveFits with
    | false, false => none
    | true, false => some below
    | false, true => some above
    | true, true =>
      if 2 * remainder < bottom then some below
      else if bottom < 2 * remainder then some above
      else
        match tie with
        | .up => some above
        | .even => some (if below % 2 == 0 then below else above)
  point.map fun digits => ⟨digits, decimal⟩

/-- The shortest decimal that reads back as the double `significand * 2 ^ exponent`; seventeen
digits always suffice. -/
def shortest (tie : TieRule) (significand : Nat) (exponent : Int) : Decimal :=
  let center : Scaled := ⟨4 * significand, exponent - 2⟩
  let high : Scaled := ⟨4 * significand + 2, exponent - 2⟩
  let low : Scaled :=
    if Binary64.narrowBelow significand exponent then ⟨4 * significand - 1, exponent - 2⟩
    else ⟨4 * significand - 2, exponent - 2⟩
  let closed := significand % 2 == 0
  let magnitude := center.magnitude
  let found := (List.range 17).findSome? fun (more : Nat) =>
    gridPoint tie closed low center high (magnitude - (more : Int))
  stripZeros 20 (found.getD ⟨significand, 0⟩)

/-- The digits as text. -/
def digitText (d : Decimal) : List Char :=
  Nat.toDigits 10 d.digits

/-- The exponent of the first digit: `d.ddd * 10 ^ leading`. -/
def leading (d : Decimal) : Int :=
  d.exponent + (d.digitText.length : Int) - 1

/-- The decimal without an exponent: digits, point and zeros. The point and a zero after it are
written for a whole number only when `wholePoint`. -/
def positional (wholePoint : Bool) (d : Decimal) : List Char :=
  let text := d.digitText
  if 0 ≤ d.exponent then
    text ++ List.replicate d.exponent.toNat '0' ++ (if wholePoint then ['.', '0'] else [])
  else
    let places := (-d.exponent).toNat
    if places < text.length then
      text.take (text.length - places) ++ '.' :: text.drop (text.length - places)
    else
      '0' :: '.' :: List.replicate (places - text.length) '0' ++ text

/-- The decimal as one digit, the others after a point, and a signed exponent. -/
def scientific (d : Decimal) : List Char :=
  let point := match d.digitText with
    | [] => []
    | [first] => [first]
    | first :: rest => first :: '.' :: rest
  let sign := if d.leading < 0 then '-' else '+'
  point ++ 'e' :: sign :: Nat.toDigits 10 d.leading.natAbs

end Decimal

end AlertRelay
