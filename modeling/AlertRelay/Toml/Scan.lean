import AlertRelay.Toml.Moments
import AlertRelay.Toml.Quoted
import AlertRelay.Toml.Tables

/-!
# Reading TOML texts

Keys, values and headers, and the document that a whole text spells. Keys have fewer than
80 parts, and values are nested less than 80 deep.
-/

namespace AlertRelay

namespace Toml

/-- The most parts of a key, and the deepest nesting of values. -/
def depthLimit : Nat := 79

/-- Whether a character may stand in a key without quotes. -/
def isKeyChar (c : Char) : Bool :=
  ('A' ≤ c && c ≤ 'Z') || ('a' ≤ c && c ≤ 'z') || ('0' ≤ c && c ≤ '9') || c == '-' || c == '_'

/-- Reads one part of a key. -/
def keyPart : List Char → Option (String × List Char)
  | [] => none
  | c :: rest =>
    if c = '"' ∨ c = singleQuote then scanLine (c :: rest)
    else
      match (c :: rest).span isKeyChar with
      | ([], _) => none
      | (name, rest) => some (String.ofList name, rest)

/-- Reads the parts of a key and the spaces around each. -/
def keyParts (fuel : Nat) (cs : List Char) : Option (List String × List Char) :=
  match fuel with
  | 0 => none
  | fuel + 1 => do
    let (part, rest) ← keyPart (skipSpaces cs)
    match skipSpaces rest with
    | '.' :: rest =>
      let (parts, rest) ← keyParts fuel rest
      return (part :: parts, rest)
    | rest => return ([part], rest)

/-- Reads a key: the parts before its last, and the last. -/
def key? (cs : List Char) : Option (List String × String × List Char) := do
  let (parts, rest) ← keyParts (cs.length + 1) cs
  if depthLimit < parts.length then none
  else
    let last ← parts.getLast?
    return (parts.dropLast, last, rest)

/-- Reads a date, a time or a number. -/
def numeral? (cs : List Char) : Option (Document × List Char) :=
  match moment cs with
  | .found d rest => some (d, rest)
  | .broken => none
  | .absent =>
    match double cs with
    | .found d rest => some (d, rest)
    | .broken => none
    | .absent =>
      match integer cs with
      | .found d rest => some (d, rest)
      | _ => none

/-- Reads a value that is neither a list nor a table. -/
def scalar? : List Char → Option (Document × List Char)
  | 't' :: 'r' :: 'u' :: 'e' :: rest => some (.bool true, rest)
  | 'f' :: 'a' :: 'l' :: 's' :: 'e' :: rest => some (.bool false, rest)
  | 'i' :: 'n' :: 'f' :: rest => some (.real (1.0 / 0.0), rest)
  | 'n' :: 'a' :: 'n' :: rest => some (.real (0.0 / 0.0), rest)
  | c :: rest =>
    if c = '"' ∨ c = singleQuote then
      (scanText (c :: rest)).map fun (s, rest) => (.text s, rest)
    else if c = '+' ∨ c = '-' ∨ ('0' ≤ c ∧ c ≤ '9') then numeral? (c :: rest)
    else none
  | [] => none

mutual

/-- Reads a value with at most `nesting` lists and tables inside each other. -/
def value? (fuel nesting : Nat) (cs : List Char) : Option (Document × List Char) :=
  match fuel with
  | 0 => none
  | fuel + 1 =>
    match cs with
    | '[' :: rest =>
      if nesting = 0 then none
      else
        match rest with
        | ']' :: rest => some (.list [], rest)
        | rest => (items? fuel (nesting - 1) rest).map fun (items, rest) => (.list items, rest)
    | '\x7b' :: rest =>
      if nesting = 0 then none
      else
        match rest with
        | '\x7d' :: rest => some (.record [], rest)
        | rest =>
          match skipSpaces rest with
          | '\x7d' :: rest => some (.record [], rest)
          | _ =>
            (pairs? fuel (nesting - 1) [] rest).map fun (members, rest) =>
              (.record (memberDocuments members), rest)
    | cs => scalar? cs

/-- Reads the items of a list and its closing bracket. -/
def items? (fuel nesting : Nat) (cs : List Char) : Option (List Document × List Char) :=
  match fuel with
  | 0 => none
  | fuel + 1 =>
    match skipLines (cs.length + 1) cs with
    | ']' :: rest => some ([], rest)
    | cs =>
      match value? fuel nesting cs with
      | none => none
      | some (item, rest) =>
        match skipLines (rest.length + 1) rest with
        | ',' :: rest => (items? fuel nesting rest).map fun (items, rest) => (item :: items, rest)
        | ']' :: rest => some ([item], rest)
        | _ => none

/-- Reads the members of a table on one line and its closing brace. -/
def pairs? (fuel nesting : Nat) (members : Members) (cs : List Char) :
    Option (Members × List Char) :=
  match fuel with
  | 0 => none
  | fuel + 1 =>
    match key? cs with
    | some (path, name, '=' :: rest) =>
      match value? fuel nesting (skipSpaces rest) with
      | none => none
      | some (d, rest) =>
        match Members.addValue? name (.value d) path.isEmpty path members, skipSpaces rest with
        | some members, ',' :: rest => pairs? fuel nesting members rest
        | some members, '\x7d' :: rest => some (members, rest)
        | _, _ => none
    | _ => none

end

/-- Reads a key with its value, and the end of the line. -/
def keyLine? (b : Builder) (cs : List Char) : Option (Builder × List Char) :=
  match key? cs with
  | some (path, name, '=' :: rest) => do
    let rest := skipSpaces rest
    let (d, rest) ← value? (rest.length + 1) depthLimit rest
    let rest ← endOfLine? rest
    return (← b.addKey? path name d, rest)
  | _ => none

/-- Reads a header, and the end of the line. -/
def headerLine? (b : Builder) : List Char → Option (Builder × List Char)
  | '[' :: '[' :: rest =>
    match key? rest with
    | some (path, name, ']' :: ']' :: rest) => do
      let rest ← endOfLine? rest
      return (← b.startRepeated? path name, rest)
    | _ => none
  | '[' :: rest =>
    match key? rest with
    | some (path, name, ']' :: rest) => do
      let rest ← endOfLine? rest
      return (← b.startTable? path name, rest)
    | _ => none
  | _ => none

/-- Reads a text line by line. -/
def lines? (fuel : Nat) (b : Builder) (cs : List Char) : Option Builder :=
  match fuel with
  | 0 => none
  | fuel + 1 =>
    match skipSpaces cs with
    | [] => some b
    | '#' :: rest =>
      match endOfLine? ('#' :: rest) with
      | some rest => lines? fuel b rest
      | none => none
    | '[' :: rest =>
      match headerLine? b ('[' :: rest) with
      | some (b, rest) => lines? fuel b rest
      | none => none
    | c :: rest =>
      match newline? (c :: rest) with
      | some rest => lines? fuel b rest
      | none =>
        match keyLine? b (c :: rest) with
        | some (b, rest) => lines? fuel b rest
        | none => none

/-- The text without the mark that may stand at its beginning. -/
def withoutMark : List Char → List Char
  | '\uFEFF' :: rest => rest
  | cs => cs

/-- The document that a TOML text spells. -/
def parse? (s : String) : Option Document := do
  let cs := withoutMark s.toList
  let b ← lines? (cs.length + 1) .empty cs
  let root ← b.finish?
  return .record (memberDocuments root)

end Toml

end AlertRelay
