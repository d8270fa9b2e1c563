/-!
# Blanks, comments and line ends in TOML

What may stand between the keys and values of a TOML text. A reader gives the text after what it has
read, or `none` where the text goes wrong.
-/

namespace AlertRelay

namespace Toml

/-- Whether a character is a space or a tab. -/
def isSpace (c : Char) : Bool := c == ' ' || c == '\t'

/-- Whether a character may stand in a comment: no control character but the tab. -/
def isPrintable (c : Char) : Bool := c == '\t' || (0x20 ≤ c.toNat && c.toNat != 0x7f)

/-- Drops spaces and tabs. -/
def skipSpaces (cs : List Char) : List Char := cs.dropWhile isSpace

/-- Reads a line end. -/
def newline? : List Char → Option (List Char)
  | '\n' :: rest => some rest
  | '\r' :: '\n' :: rest => some rest
  | _ => none

/-- Drops a comment, if one follows. -/
def skipComment : List Char → List Char
  | '#' :: rest => rest.dropWhile isPrintable
  | cs => cs

/-- Reads what may follow a value on its line, and the end of the line or of the text. -/
def endOfLine? (cs : List Char) : Option (List Char) :=
  match skipComment (skipSpaces cs) with
  | [] => some []
  | c :: rest => newline? (c :: rest)

/-- Drops spaces, line ends and comments. A comment must end with its line. -/
def skipLines (fuel : Nat) (cs : List Char) : List Char :=
  match fuel with
  | 0 => cs
  | fuel + 1 =>
    let cs := skipSpaces cs
    match cs with
    | '#' :: _ =>
      match newline? (skipComment cs) with
      | some rest => skipLines fuel rest
      | none => cs
    | _ =>
      match newline? cs with
      | some rest => skipLines fuel rest
      | none => cs

end Toml

end AlertRelay
