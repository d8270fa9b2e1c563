import AlertRelay.Document.Scan

/-!
# Numbers in TOML

Integers of 64 bits in four bases, and doubles. Digits may be parted by single underscores. A number
that begins like one and goes wrong makes the text wrong.
-/

namespace AlertRelay

namespace Toml

/-- What trying one of several readings comes to. -/
inductive Reading (α : Type) where
  | found (value : α) (rest : List Char)
  /-- The text is something else. -/
  | absent
  /-- The text is wrong. -/
  | broken

/-- Reads digits that may be parted by underscores. An underscore stands between two digits. -/
def digitRun (digit : Char → Option Nat) : List Char → Reading (List Nat)
  | [] => .absent
  | c :: rest =>
    match digit c with
    | none => .absent
    | some d =>
      match rest with
      | '_' :: after =>
        match digitRun digit after with
        | .found ds rest => .found (d :: ds) rest
        | _ => .broken
      | rest =>
        match digitRun digit rest with
        | .found ds rest => .found (d :: ds) rest
        | .absent => .found [d] rest
        | .broken => .broken

/-- The value of an octal digit. -/
def octalDigit? (c : Char) : Option Nat := (decimalDigit? c).filter (· < 8)

/-- The value of a binary digit. -/
def binaryDigit? (c : Char) : Option Nat := (decimalDigit? c).filter (· < 2)

/-- Reads a sign. -/
def sign : List Char → Option Bool × List Char
  | '+' :: rest => (some false, rest)
  | '-' :: rest => (some true, rest)
  | cs => (none, cs)

/-- Reads the digits of a decimal integer: a zero stands alone. -/
def wholeDigits : List Char → Reading (List Nat)
  | '0' :: rest => .found [0] rest
  | cs => digitRun decimalDigit? cs

/-- Reads an exponent after its letter. -/
def exponent (cs : List Char) : Reading (Bool × List Nat) :=
  let (negative, rest) := sign cs
  match digitRun decimalDigit? rest with
  | .found ds rest => .found (negative.getD false, ds) rest
  | _ => .broken

/-- Whether a text starts with the letter of an exponent. -/
def exponentFollows : List Char → Bool
  | c :: _ => c == 'e' || c == 'E'
  | [] => false

/-- Reads the exponent that may end a number. -/
def optionalExponent (cs : List Char) : Reading (Option (Bool × List Nat)) :=
  if exponentFollows cs then
    match exponent (cs.drop 1) with
    | .found e rest => .found (some e) rest
    | _ => .broken
  else .found none cs

/-- The double of a literal. One that is too great to be a double is wrong, unless it is negative.
-/
def doubleOf (l : Literal) (rest : List Char) : Reading Document :=
  let x := l.nearest
  if x == 1.0 / 0.0 then .broken else .found (.real x) rest

/-- Reads `inf` and `nan` after a sign. -/
def specialDouble (negative : Bool) : List Char → Reading Document
  | 'i' :: 'n' :: 'f' :: rest =>
    .found (.real (if negative then -1.0 / 0.0 else 1.0 / 0.0)) rest
  | 'n' :: 'a' :: 'n' :: rest => .found (.real (0.0 / 0.0)) rest
  | _ => .absent

/-- Reads a double. -/
def double (cs : List Char) : Reading Document :=
  let (negative, unsigned) := sign cs
  let negative := negative.getD false
  match wholeDigits unsigned with
  | .broken => .broken
  | .absent => specialDouble negative unsigned
  | .found whole rest =>
    match rest with
    | '.' :: after =>
      match digitRun decimalDigit? after with
      | .found fraction after =>
        match optionalExponent after with
        | .found e after => doubleOf ⟨negative, whole, some fraction, e⟩ after
        | _ => .broken
      | _ => .broken
    | rest =>
      if exponentFollows rest then
        match optionalExponent rest with
        | .found e after => doubleOf ⟨negative, whole, none, e⟩ after
        | _ => .broken
      else .absent

/-- The number that digits spell in a base. -/
def inBase (base : Nat) (digits : List Nat) : Nat := digits.foldl (fun n d => n * base + d) 0

/-- An integer, if 64 bits hold it. -/
def integerOf (i : Int) (rest : List Char) : Reading Document :=
  if -0x8000000000000000 ≤ i ∧ i < 0x8000000000000000 then .found (.integer i) rest else .broken

/-- Reads the digits of an integer in another base than ten. -/
def basedInteger (base : Nat) (digit : Char → Option Nat) (cs : List Char) : Reading Document :=
  match digitRun digit cs with
  | .found ds rest => integerOf (inBase base ds) rest
  | _ => .broken

/-- Reads an integer. -/
def integer : List Char → Reading Document
  | '0' :: 'x' :: rest => basedInteger 16 hexDigit? rest
  | '0' :: 'o' :: rest => basedInteger 8 octalDigit? rest
  | '0' :: 'b' :: rest => basedInteger 2 binaryDigit? rest
  | cs =>
    let (negative, unsigned) := sign cs
    match wholeDigits unsigned with
    | .found ds rest =>
      integerOf (if negative.getD false then -(inBase 10 ds : Int) else inBase 10 ds) rest
    | _ => .broken

end Toml

end AlertRelay
