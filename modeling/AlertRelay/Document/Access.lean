import AlertRelay.Document.Basic

/-!
# Looking into documents

Members are looked up by name. What is missing, or is of another kind than asked for, reads as a
blank: an empty text, zero, false or no items.
-/

namespace AlertRelay

namespace Document

/-- The first member of a name. -/
def member? (d : Document) (name : String) : Option Document :=
  match d with
  | record members => (members.find? fun m => m.1 == some name).map Prod.snd
  | _ => none

/-- The member of a name, or nothing. -/
def member (d : Document) (name : String) : Document := (d.member? name).getD null

/-- The text that a document is. -/
def text? : Document → Option String
  | text s => some s
  | _ => none

/-- The integer that a document is. -/
def integer? : Document → Option Int
  | integer i => some i
  | _ => none

/-- The items of a list. -/
def items : Document → List Document
  | list items => items
  | _ => []

/-- Whether a document says yes. -/
def isTrue : Document → Bool
  | bool b => b
  | _ => false

/-- The text in a member. -/
def textOf? (d : Document) (name : String) : Option String := (d.member name).text?

/-- The text in a member, or the empty text. -/
def textOf (d : Document) (name : String) : String := (d.textOf? name).getD ""

/-- The integer in a member. -/
def integerOf? (d : Document) (name : String) : Option Int := (d.member name).integer?

/-- The integer in a member, or zero. -/
def integerOf (d : Document) (name : String) : Int := (d.integerOf? name).getD 0

/-- The integer in a member if it is not negative, or else zero. -/
def countOf (d : Document) (name : String) : Nat := (d.integerOf name).toNat

/-- The items in a member. -/
def itemsOf (d : Document) (name : String) : List Document := (d.member name).items

/-- Whether a member says yes. -/
def flagOf (d : Document) (name : String) : Bool := (d.member name).isTrue

/-- The two items of a list of two. -/
def pair : Document → Document × Document
  | list [a, b] => (a, b)
  | _ => (null, null)

end Document

end AlertRelay
