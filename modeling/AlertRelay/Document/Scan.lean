import AlertRelay.Document.Basic
import AlertRelay.Text.Hex

/-!
# Reading JSON text

`Document.scan` reads one JSON value and `Document.ofJson` a whole text. The reader never fails: the
place where a text goes wrong becomes the leaf `cutOff`. Nesting is not limited here, only where a
document is decoded, because values that are passed over may be nested to any depth.
-/

namespace AlertRelay

/-- The value of a decimal digit. -/
def decimalDigit? (c : Char) : Option Nat :=
  if '0' ≤ c ∧ c ≤ '9' then some (c.toNat - '0'.toNat) else none

/-- The values of the digits a text starts with, and the rest of the text. -/
def takeDigits : List Char → List Nat × List Char
  | [] => ([], [])
  | c :: rest =>
    match decimalDigit? c with
    | some d => let (ds, after) := takeDigits rest; (d :: ds, after)
    | none => ([], c :: rest)

namespace Document

/-- Drops the blanks JSON allows between tokens. -/
def skipBlanks : List Char → List Char
  | c :: rest => if c = ' ' ∨ c = '\n' ∨ c = '\t' ∨ c = '\r' then skipBlanks rest else c :: rest
  | [] => []

/-- The number that four hexadecimal digits spell. -/
def hexWord? (a b c d : Char) : Option Nat := do
  let a ← hexDigit? a
  let b ← hexDigit? b
  let c ← hexDigit? c
  let d ← hexDigit? d
  return ((a * 16 + b) * 16 + c) * 16 + d

/-- Whether a code unit is the first half of a pair. -/
def isHighHalf (unit : Nat) : Bool := decide (0xD800 ≤ unit ∧ unit < 0xDC00)

/-- Whether a code unit is the second half of a pair. -/
def isLowHalf (unit : Nat) : Bool := decide (0xDC00 ≤ unit ∧ unit < 0xE000)

/-- The character that two halves stand for. -/
def joinHalves (high low : Nat) : Char :=
  Char.ofNat (0x10000 + (high - 0xD800) * 0x400 + (low - 0xDC00))

/-- The second half spelled by an escape at the start of a text, and the text after it. -/
def lowHalf? : List Char → Option (Nat × List Char)
  | '\\' :: 'u' :: a :: b :: c :: d :: rest =>
    match hexWord? a b c d with
    | some unit => if isLowHalf unit then some (unit, rest) else none
    | none => none
  | _ => none

/-- The character after a backslash that stands for one character. -/
def plainEscape? (c : Char) : Option Char :=
  if c = '"' ∨ c = '\\' ∨ c = '/' then some c
  else if c = 'b' then some '\x08'
  else if c = 'f' then some '\x0c'
  else if c = 'n' then some '\n'
  else if c = 'r' then some '\r'
  else if c = 't' then some '\t'
  else none

/-- Reads a string up to its closing quote. `done` is what was read, in reverse. The text is `none`
if an escape names half a pair; the result is `none` if the string is not well formed. -/
def scanString (fuel : Nat) (done : List Char) (readable : Bool) (input : List Char) :
    Option (Option String × List Char) :=
  match fuel with
  | 0 => none
  | fuel + 1 =>
    match input with
    | [] => none
    | '"' :: rest => some (if readable then some (String.ofList done.reverse) else none, rest)
    | '\\' :: 'u' :: a :: b :: c :: d :: rest =>
      match hexWord? a b c d with
      | none => none
      | some unit =>
        if isHighHalf unit then
          match lowHalf? rest with
          | some (low, after) => scanString fuel (joinHalves unit low :: done) readable after
          | none => scanString fuel done false rest
        else if isLowHalf unit then scanString fuel done false rest
        else scanString fuel (Char.ofNat unit :: done) readable rest
    | '\\' :: c :: rest =>
      match plainEscape? c with
      | some plain => scanString fuel (plain :: done) readable rest
      | none => none
    | c :: rest =>
      if c = '\\' ∨ c.toNat < 0x20 then none
      else scanString fuel (c :: done) readable rest

/-- Reads the point and the digits after it, if a point follows. -/
def scanFraction : List Char → Option (Option (List Nat) × List Char)
  | '.' :: rest =>
    match takeDigits rest with
    | ([], _) => none
    | (digits, after) => some (some digits, after)
  | input => some (none, input)

/-- Reads the sign of an exponent, if there is one; `true` is minus. -/
def scanSign : List Char → Bool × List Char
  | '+' :: rest => (false, rest)
  | '-' :: rest => (true, rest)
  | input => (false, input)

/-- Reads the exponent, if one follows. -/
def scanExponent : List Char → Option (Option (Bool × List Nat) × List Char)
  | c :: rest =>
    if c = 'e' ∨ c = 'E' then
      let (down, digits) := scanSign rest
      match takeDigits digits with
      | ([], _) => none
      | (digits, after) => some (some (down, digits), after)
    else some (none, c :: rest)
  | [] => some (none, [])

/-- Reads what may follow the whole digits of a number. -/
def scanPlaces (negative : Bool) (whole : List Nat) (input : List Char) :
    Option (Literal × List Char) :=
  match scanFraction input with
  | none => none
  | some (fraction, rest) =>
    match scanExponent rest with
    | none => none
    | some (exponent, rest) => some (⟨negative, whole, fraction, exponent⟩, rest)

/-- Reads a number after its sign. A zero is not followed by further digits. -/
def scanMagnitude (negative : Bool) (input : List Char) : Option (Literal × List Char) :=
  match takeDigits input with
  | ([], _) => none
  | (0 :: _ :: _, _) => none
  | (whole, rest) => scanPlaces negative whole rest

/-- Reads a number. -/
def scanNumber : List Char → Option (Literal × List Char)
  | '-' :: rest => scanMagnitude true rest
  | input => scanMagnitude false input

/-- The document of a number literal. -/
def ofLiteral (l : Literal) : Document :=
  match l.number? with
  | some n => ofNumber n
  | none => .unreadable

/-- The word a text starts with, if it does. -/
def word? (word : String) (input : List Char) : Option (List Char) :=
  if word.toList.isPrefixOf input then some (input.drop word.length) else none

mutual

/-- Reads one value, blanks before it included, and gives the rest of the text; there is no rest if
the text goes wrong inside the value. -/
def scanValue (fuel : Nat) (input : List Char) : Document × Option (List Char) :=
  match fuel with
  | 0 => (.cutOff, none)
  | fuel + 1 =>
    match skipBlanks input with
    | '"' :: rest =>
      match scanString (rest.length + 1) [] true rest with
      | some (some s, after) => (.text s, some after)
      | some (none, after) => (.unreadable, some after)
      | none => (.cutOff, none)
    | '[' :: rest =>
      match skipBlanks rest with
      | ']' :: after => (.list [], some after)
      | first =>
        let (items, after) := scanItems fuel first
        (.list items, after)
    | '\x7b' :: rest =>
      match skipBlanks rest with
      | '\x7d' :: after => (.record [], some after)
      | first =>
        let (members, after) := scanMembers fuel first
        (.record members, after)
    | 't' :: rest =>
      match word? "rue" rest with
      | some after => (.bool true, some after)
      | none => (.cutOff, none)
    | 'f' :: rest =>
      match word? "alse" rest with
      | some after => (.bool false, some after)
      | none => (.cutOff, none)
    | 'n' :: rest =>
      match word? "ull" rest with
      | some after => (.null, some after)
      | none => (.cutOff, none)
    | other =>
      match scanNumber other with
      | some (l, after) => (ofLiteral l, some after)
      | none => (.cutOff, none)

/-- Reads the items of a list up to its closing bracket. -/
def scanItems (fuel : Nat) (input : List Char) : List Document × Option (List Char) :=
  match fuel with
  | 0 => ([.cutOff], none)
  | fuel + 1 =>
    let (item, rest) := scanValue fuel input
    match rest with
    | none => ([item], none)
    | some rest =>
      match skipBlanks rest with
      | ']' :: after => ([item], some after)
      | ',' :: after =>
        let (items, after) := scanItems fuel after
        (item :: items, after)
      | _ => ([item, .cutOff], none)

/-- Reads the members of a record up to its closing brace. -/
def scanMembers (fuel : Nat) (input : List Char) :
    List (Option String × Document) × Option (List Char) :=
  match fuel with
  | 0 => ([(none, .cutOff)], none)
  | fuel + 1 =>
    match skipBlanks input with
    | '"' :: rest =>
      match scanString (rest.length + 1) [] true rest with
      | none => ([(none, .cutOff)], none)
      | some (name, rest) =>
        match skipBlanks rest with
        | ':' :: rest =>
          let (value, rest) := scanValue fuel rest
          match rest with
          | none => ([(name, value)], none)
          | some rest =>
            match skipBlanks rest with
            | '\x7d' :: after => ([(name, value)], some after)
            | ',' :: after =>
              let (members, after) := scanMembers fuel after
              ((name, value) :: members, after)
            | _ => ([(name, value), (none, .cutOff)], none)
        | _ => ([(name, .cutOff)], none)
    | _ => ([(none, .cutOff)], none)

end

/-- A JSON text: its document, and whether nothing but blanks follows it. -/
structure Text where
  document : Document
  complete : Bool

/-- Reads a JSON text. -/
def ofJson (s : String) : Text :=
  let input := s.toList
  match scanValue (2 * input.length + 2) input with
  | (d, some rest) => ⟨d, (skipBlanks rest).isEmpty⟩
  | (d, none) => ⟨d, false⟩

end Document

end AlertRelay
