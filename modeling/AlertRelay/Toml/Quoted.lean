import AlertRelay.Document.Scan
import AlertRelay.Toml.Trivia

/-!
# Strings in TOML

Strings with escapes stand in double quotes, literal ones in single quotes, and each kind has a form
with three quotes that may run over several lines. The line end after three opening quotes is
dropped, other line ends are kept as one character. Up to two quotes may stand before the closing
three.
-/

namespace AlertRelay

namespace Toml

/-- The single quote. -/
def singleQuote : Char := '\x27'

/-- The number that so many hexadecimal digits spell, and the text after them. -/
def hexNumber? : Nat → Nat → List Char → Option (Nat × List Char)
  | 0, n, cs => some (n, cs)
  | count + 1, n, c :: rest =>
    match hexDigit? c with
    | some d => hexNumber? count (n * 16 + d) rest
    | none => none
  | _ + 1, _, [] => none

/-- The character of a code point, if it is one. -/
def charOf? (code : Nat) : Option Char :=
  if code < 0xD800 ∨ (0xDFFF < code ∧ code < 0x110000) then some (Char.ofNat code) else none

/-- The character that an escape of code points stands for. -/
def codeEscape? (digits : Nat) (cs : List Char) : Option (Char × List Char) := do
  let (code, rest) ← hexNumber? digits 0 cs
  let c ← charOf? code
  return (c, rest)

/-- The character that an escape stands for, after its backslash. -/
def escape? : List Char → Option (Char × List Char)
  | 'b' :: rest => some ('\x08', rest)
  | 'f' :: rest => some ('\x0c', rest)
  | 'n' :: rest => some ('\n', rest)
  | 'r' :: rest => some ('\r', rest)
  | 't' :: rest => some ('\t', rest)
  | '\\' :: rest => some ('\\', rest)
  | '"' :: rest => some ('"', rest)
  | 'u' :: rest => codeEscape? 4 rest
  | 'U' :: rest => codeEscape? 8 rest
  | _ => none

/-- Reads a string with escapes up to its closing quote. `done` is what was read, in reverse. -/
def scanBasic (fuel : Nat) (done : List Char) (cs : List Char) : Option (String × List Char) :=
  match fuel with
  | 0 => none
  | fuel + 1 =>
    match cs with
    | '"' :: rest => some (String.ofList done.reverse, rest)
    | '\\' :: rest =>
      match escape? rest with
      | some (c, rest) => scanBasic fuel (c :: done) rest
      | none => none
    | c :: rest => if isPrintable c then scanBasic fuel (c :: done) rest else none
    | [] => none

/-- Reads a literal string up to its closing quote. -/
def scanLiteral (cs : List Char) : Option (String × List Char) :=
  let (body, rest) := cs.span fun c => isPrintable c && c != singleQuote
  match rest with
  | c :: rest => if c = singleQuote then some (String.ofList body, rest) else none
  | [] => none

/-- The number of quotes that a text starts with, and the text after them. -/
def countQuotes (quote : Char) : List Char → Nat × List Char
  | c :: rest =>
    if c = quote then
      let (n, after) := countQuotes quote rest
      (n + 1, after)
    else (0, c :: rest)
  | [] => (0, [])

/-- Drops spaces and line ends. -/
def skipEmptyLines (fuel : Nat) (cs : List Char) : List Char :=
  match fuel with
  | 0 => cs
  | fuel + 1 =>
    match newline? (skipSpaces cs) with
    | some rest => skipEmptyLines fuel rest
    | none => skipSpaces cs

/-- A backslash at the end of a line drops all spaces and line ends that follow. -/
def lineContinuation? (cs : List Char) : Option (List Char) :=
  (newline? (skipSpaces cs)).map fun rest => skipEmptyLines (rest.length + 1) rest

/-- Reads a string of several lines up to its three closing quotes. -/
def scanLines (quote : Char) (escapes : Bool) (fuel : Nat) (done : List Char) (cs : List Char) :
    Option (String × List Char) :=
  match fuel with
  | 0 => none
  | fuel + 1 =>
    match cs with
    | [] => none
    | c :: rest =>
      if c = quote then
        let (n, after) := countQuotes quote cs
        if n < 3 then scanLines quote escapes fuel (List.replicate n quote ++ done) after
        else if n ≤ 5 then
          some (String.ofList (List.replicate (n - 3) quote ++ done).reverse, after)
        else none
      else if escapes && c == '\\' then
        match lineContinuation? rest with
        | some after => scanLines quote escapes fuel done after
        | none =>
          match escape? rest with
          | some (e, after) => scanLines quote escapes fuel (e :: done) after
          | none => none
      else
        match newline? cs with
        | some after => scanLines quote escapes fuel ('\n' :: done) after
        | none => if isPrintable c then scanLines quote escapes fuel (c :: done) rest else none

/-- The text after three opening quotes, without a line end that follows them at once. -/
def afterOpening (cs : List Char) : List Char := (newline? cs).getD cs

/-- Reads a string of one line, as it may stand for a key. -/
def scanLine : List Char → Option (String × List Char)
  | '"' :: rest => scanBasic (rest.length + 1) [] rest
  | c :: rest => if c = singleQuote then scanLiteral rest else none
  | [] => none

/-- Reads a string of any kind. -/
def scanText : List Char → Option (String × List Char)
  | '"' :: '"' :: '"' :: rest =>
    scanLines '"' true (rest.length + 1) [] (afterOpening rest)
  | a :: b :: c :: rest =>
    if a = singleQuote ∧ b = singleQuote ∧ c = singleQuote then
      scanLines singleQuote false (rest.length + 1) [] (afterOpening rest)
    else scanLine (a :: b :: c :: rest)
  | cs => scanLine cs

end Toml

end AlertRelay
