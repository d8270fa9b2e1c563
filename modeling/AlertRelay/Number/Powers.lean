/-!
# Powers

Powers of two and of ten, the bases of doubles and of written numbers.
-/

namespace AlertRelay

/-- A power of two. -/
def pow2 (exponent : Nat) : Nat := Nat.pow 2 exponent

/-- A power of ten. -/
def pow10 (exponent : Nat) : Nat := Nat.pow 10 exponent

end AlertRelay
