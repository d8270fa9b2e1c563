import AlertRelay.Number.Literal

/-!
# Documents

A document is the tree that a JSON or TOML text spells, with members in the order of the text and
repeated names kept. Two leaves stand for what a text may hold besides: a value that may be passed
over but not read, such as a number too great for a double, and the place where the text goes wrong.
Keeping both in the tree lets a decoder report the first fault in the order of the text.
-/

namespace AlertRelay

/-- The tree of a structured text. -/
inductive Document where
  | null
  | bool (value : Bool)
  | integer (value : Int)
  | real (value : Float)
  | text (value : String)
  | list (items : List Document)
  /-- Members in the order of the text; a name that is no Unicode text is `none`. -/
  | record (members : List (Option String × Document))
  /-- A well-formed value that stands for nothing. -/
  | unreadable
  /-- The text breaks off or goes wrong here. -/
  | cutOff
  deriving Inhabited

namespace Document

mutual

/-- Whether the text of the document is well formed to its end. -/
def isWhole : Document → Bool
  | cutOff => false
  | list items => allWhole items
  | record members => membersWhole members
  | _ => true

/-- Whether every document of a list is well formed. -/
def allWhole : List Document → Bool
  | [] => true
  | d :: rest => d.isWhole && allWhole rest

/-- Whether every member of a record is well formed. -/
def membersWhole : List (Option String × Document) → Bool
  | [] => true
  | (_, d) :: rest => d.isWhole && membersWhole rest

end

/-- The document of a number. -/
def ofNumber : Number → Document
  | .integer i => .integer i
  | .real x => .real x

/-- A record with named members. -/
def ofFields (fields : List (String × Document)) : Document :=
  .record (fields.map fun (name, d) => (some name, d))

end Document

end AlertRelay
