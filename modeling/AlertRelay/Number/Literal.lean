/-!
# Reading number literals

A literal is taken apart into digits by the reader of a format; here its value is found. A JSON
literal is an integer where 64 bits hold it and a double otherwise, and the double is the leading
digits, as many as 64 bits hold, scaled by a power of ten.
-/

namespace AlertRelay

/-- A number of a document: an integer of at most 64 bits, or a double. -/
inductive Number where
  | integer (value : Int)
  | real (value : Float)
  deriving Inhabited

/-- The digits of a number literal, as numbers below ten. -/
structure Literal where
  negative : Bool
  whole : List Nat
  /-- The digits after the point, if there is one. -/
  fraction : Option (List Nat)
  /-- The sign of the exponent (`true` for minus) and its digits, if there is one. -/
  exponent : Option (Bool × List Nat)
  deriving Inhabited

/-- The greatest number of 64 bits. -/
def maxWord : Nat := 0xffffffffffffffff

/-- The greatest number of 32 bits with a sign. -/
def maxInt32 : Nat := 0x7fffffff

/-- The double nearest to a power of ten. -/
def powerOfTen (exponent : Nat) : Float := Float.ofScientific 1 false exponent

/-- The double nearest to a number of at most 64 bits. -/
def nearestDouble (n : Nat) : Float := (UInt64.ofNat n).toFloat

/-- The double nearest to an integer of at most 64 bits. -/
def nearestDoubleOfInt (i : Int) : Float :=
  if i < 0 then -nearestDouble i.natAbs else nearestDouble i.toNat

namespace Literal

/-- Appends digits to a number for as long as 64 bits hold it, and gives the digits left over. -/
def absorb (significand : Nat) : List Nat → Nat × List Nat
  | [] => (significand, [])
  | d :: rest =>
    if significand * 10 + d ≤ maxWord then absorb (significand * 10 + d) rest
    else (significand, d :: rest)

/-- A double scaled by a power of ten, in steps of at most `10^308`; `none` if it overflows. -/
def scale (steps : Nat) (value : Float) (exponent : Int) : Option Float :=
  if 0 ≤ exponent then
    if exponent ≤ 308 then
      let scaled := value * powerOfTen exponent.toNat
      if scaled.isInf then none else some scaled
    else if value == 0 then some value
    else none
  else if -308 ≤ exponent then some (value / powerOfTen exponent.natAbs)
  else if value == 0 then some value
  else
    match steps with
    | 0 => some (value / powerOfTen 308)
    | steps + 1 => scale steps (value / powerOfTen 308) (exponent + 308)

/-- The exponent that digits spell, or `none` if it does not fit 32 bits. -/
def exponentOf (digits : List Nat) : Option Nat :=
  digits.foldlM (fun exponent d =>
    if exponent * 10 + d ≤ maxInt32 then some (exponent * 10 + d) else none) 0

/-- Keeps an exponent within 32 bits. -/
def saturate (exponent : Int) : Int :=
  max (-(maxInt32 : Int) - 1) (min maxInt32 exponent)

/-- The double that a significand and a decimal exponent stand for. -/
def toReal (negative : Bool) (significand : Nat) (exponent : Int) : Option Number :=
  (scale 4 (nearestDouble significand) exponent).map fun magnitude =>
    .real (if negative then -magnitude else magnitude)

/-- The integer of a literal without point and exponent. A negative literal below the least number
of 64 bits is a double, and so is minus zero. -/
def toInteger (negative : Bool) (significand : Nat) : Number :=
  if !negative then .integer significand
  else if significand = 0 ∨ 0x8000000000000000 < significand then .real (-nearestDouble significand)
  else .integer (-(significand : Int))

/-- The number a JSON literal stands for, or `none` if no finite double is near it. -/
def number? (l : Literal) : Option Number :=
  let (significand, dropped) := absorb 0 l.whole
  match l.fraction, l.exponent with
  | none, none =>
    if dropped.isEmpty then some (toInteger l.negative significand)
    else toReal l.negative significand dropped.length
  | fraction, exponent =>
    let places := fraction.getD []
    let (significand, unread) := absorb significand places
    let base := (dropped.length : Int) - ((places.length - unread.length : Nat) : Int)
    match exponent with
    | none => toReal l.negative significand base
    | some (down, digits) =>
      match exponentOf digits with
      | some e => toReal l.negative significand (saturate (if down then base - e else base + e))
      | none =>
        if significand ≠ 0 ∧ !down then none
        else some (.real (if l.negative then -0.0 else 0.0))

/-- The number that digits spell in base ten. -/
def ofDigits (digits : List Nat) : Nat :=
  digits.foldl (fun n d => n * 10 + d) 0

/-- The double nearest to a literal; what is too great is infinite. -/
def nearest (l : Literal) : Float :=
  let places := l.fraction.getD []
  let significand := ofDigits (l.whole ++ places)
  let exponent : Int := match l.exponent with
    | none => 0
    | some (down, digits) => if down then -(ofDigits digits : Int) else ofDigits digits
  let decimal := exponent - places.length
  let length := ((l.whole ++ places).dropWhile (· == 0)).length
  let magnitude : Float :=
    if significand = 0 then 0
    else if 310 < decimal + length then 1 / 0
    else if decimal + length < -330 then 0
    else if 0 ≤ decimal then Float.ofScientific significand false decimal.toNat
    else Float.ofScientific significand true decimal.natAbs
  if l.negative then -magnitude else magnitude

end Literal

end AlertRelay
