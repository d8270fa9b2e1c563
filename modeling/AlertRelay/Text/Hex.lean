import AlertRelay.Text.Utf8

/-!
# Hexadecimal digits

Digits are written in lower case and read in either case.
-/

namespace AlertRelay

/-- A hexadecimal digit in lower case. -/
def hexDigit (n : Nat) : Char :=
  if n < 10 then Char.ofNat ('0'.toNat + n) else Char.ofNat ('a'.toNat + (n - 10))

/-- The value of a hexadecimal digit of either case. -/
def hexDigit? (c : Char) : Option Nat :=
  if '0' ≤ c ∧ c ≤ '9' then some (c.toNat - '0'.toNat)
  else if 'a' ≤ c ∧ c ≤ 'f' then some (c.toNat - 'a'.toNat + 10)
  else if 'A' ≤ c ∧ c ≤ 'F' then some (c.toNat - 'A'.toNat + 10)
  else none

/-- Bytes as pairs of digits. -/
def hexOfBytes (bytes : Bytes) : String :=
  String.ofList (bytes.flatMap fun b => [hexDigit (b.toNat / 16), hexDigit (b.toNat % 16)])

/-- The bytes that pairs of digits spell, up to the first that is no pair of digits. -/
def bytesOfHex : List Char → Bytes
  | a :: b :: rest =>
    match hexDigit? a, hexDigit? b with
    | some a, some b => UInt8.ofNat (a * 16 + b) :: bytesOfHex rest
    | _, _ => []
  | _ => []

/-- A digit reads back as its value. -/
@[simp] theorem hexDigit?_hexDigit {n : Nat} (h : n < 16) : hexDigit? (hexDigit n) = some n := by
  have all : ∀ n : Fin 16, hexDigit? (hexDigit n.val) = some n.val := by decide
  exact all ⟨n, h⟩

end AlertRelay
