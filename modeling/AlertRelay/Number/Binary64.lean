import AlertRelay.Number.Powers

/-!
# The parts of a double-precision number

`Binary64.ofFloat` takes a double apart into sign, significand and exponent, so that what is
printed or rounded can be computed on natural numbers.
-/

namespace AlertRelay

/-- A double: no number, an infinity, or plus or minus `significand * 2 ^ exponent`. -/
inductive Binary64 where
  | nan
  | infinite (negative : Bool)
  | finite (negative : Bool) (significand : Nat) (exponent : Int)
  deriving DecidableEq, Inhabited

namespace Binary64

/-- The exponent of the smallest positive double, which all subnormal numbers share. -/
def minExponent : Int := -1074

/-- The parts of a double, read off its 64 bits. -/
def ofBits (bits : Nat) : Binary64 :=
  let negative := bits / 0x8000000000000000 % 2 == 1
  let biased : Nat := bits / 0x10000000000000 % 0x800
  let fraction : Nat := bits % 0x10000000000000
  if biased == 2047 then
    if fraction == 0 then .infinite negative else .nan
  else if biased == 0 then
    .finite negative fraction minExponent
  else
    .finite negative (0x10000000000000 + fraction) ((biased : Int) - 1 + minExponent)

/-- The parts of a double. -/
def ofFloat (x : Float) : Binary64 :=
  ofBits x.toBits.toNat

/-- Whether the double below `significand * 2 ^ exponent` is only half as far away as the one above
it: so it is at a power of two, the smallest normal number apart. -/
def narrowBelow (significand : Nat) (exponent : Int) : Bool :=
  significand == 0x10000000000000 && exponent != minExponent

end Binary64

end AlertRelay
