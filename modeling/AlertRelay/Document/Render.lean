import AlertRelay.Document.Basic
import AlertRelay.Number.Text
import AlertRelay.Text.Hex

/-!
# Documents as JSON text

`Document.render` writes the compact JSON text of a document: no blanks, members in their order,
and an escape only for quotes, backslashes and control characters.
-/

namespace AlertRelay

namespace Document

/-- One character inside a JSON string. -/
def escape (c : Char) : List Char :=
  if c = '"' then ['\\', '"']
  else if c = '\\' then ['\\', '\\']
  else if c = '\x08' then ['\\', 'b']
  else if c = '\x0c' then ['\\', 'f']
  else if c = '\n' then ['\\', 'n']
  else if c = '\r' then ['\\', 'r']
  else if c = '\t' then ['\\', 't']
  else if c.toNat < 0x20 then
    ['\\', 'u', '0', '0', hexDigit (c.toNat / 16), hexDigit (c.toNat % 16)]
  else [c]

/-- A JSON string literal. -/
def quote (s : String) : List Char :=
  '"' :: s.toList.flatMap escape ++ ['"']

mutual

/-- The characters of a document's JSON text. -/
def chars : Document → List Char
  | null => "null".toList
  | bool true => "true".toList
  | bool false => "false".toList
  | integer i => (toString i).toList
  | real x => (Binary64.ofFloat x).jsonText.toList
  | text s => quote s
  | list items => '[' :: itemChars true items ++ [']']
  | record members => '\x7b' :: memberChars true members ++ ['\x7d']
  | unreadable => []
  | cutOff => []

/-- The items of a list, with commas between them. -/
def itemChars (first : Bool) : List Document → List Char
  | [] => []
  | d :: rest => (if first then [] else [',']) ++ d.chars ++ itemChars false rest

/-- The members of a record, with commas between them. -/
def memberChars (first : Bool) : List (Option String × Document) → List Char
  | [] => []
  | (name, d) :: rest =>
    (if first then [] else [',']) ++ quote (name.getD "") ++ ':' :: d.chars ++
      memberChars false rest

end

/-- The compact JSON text of a document. -/
def render (d : Document) : String := String.ofList d.chars

end Document

end AlertRelay
