import AlertRelay.Document.Decode
import AlertRelay.Document.Render

/-!
# Free-form JSON values

`Json` is what an event carries besides the fields it is known by. The members of an object are kept
sorted by name, each name once; of repeated names the last one counts.
-/

namespace AlertRelay

/-- A JSON value. -/
inductive Json where
  | null
  | bool (value : Bool)
  | integer (value : Int)
  | real (value : Float)
  | text (value : String)
  | list (items : List Json)
  | object (members : List (String × Json))
  deriving Inhabited

namespace Json

/-- Puts a member into sorted members; one of the same name is replaced. -/
def insertMember {α : Type} (name : String) (value : α) : List (String × α) → List (String × α)
  | [] => [(name, value)]
  | (n, v) :: rest =>
    if name < n then (name, value) :: (n, v) :: rest
    else if name = n then (name, value) :: rest
    else (n, v) :: insertMember name value rest

/-- Sorted members from members in any order; of repeated names the last one counts. -/
def sortMembers {α : Type} (members : List (String × α)) : List (String × α) :=
  members.foldl (fun sorted (name, value) => insertMember name value sorted) []

/-- The member of a name. -/
def member? {α : Type} (name : String) (members : List (String × α)) : Option α :=
  (members.find? fun member => member.1 = name).map Prod.snd

/-- The members of other names. -/
def withoutMember {α : Type} (name : String) (members : List (String × α)) : List (String × α) :=
  members.filter fun member => member.1 ≠ name

mutual

/-- The document that spells a value. -/
def toDocument : Json → Document
  | null => .null
  | bool b => .bool b
  | integer i => .integer i
  | real x => .real x
  | text s => .text s
  | list items => .list (itemDocuments items)
  | object members => .record (memberDocuments members)

/-- The documents that spell the items of a list. -/
def itemDocuments : List Json → List Document
  | [] => []
  | item :: rest => item.toDocument :: itemDocuments rest

/-- The members that spell those of an object. -/
def memberDocuments : List (String × Json) → List (Option String × Document)
  | [] => []
  | (name, value) :: rest => (some name, value.toDocument) :: memberDocuments rest

end

mutual

/-- The value that a document spells, with at most `nesting` lists and objects inside each other. -/
def ofDocument? (nesting : Nat) : Document → Option Json
  | .null => some .null
  | .bool b => some (.bool b)
  | .integer i => some (.integer i)
  | .real x => some (.real x)
  | .text s => some (.text s)
  | .list items =>
    match nesting with
    | 0 => none
    | nesting + 1 => (itemsOf? nesting items).map .list
  | .record members =>
    match nesting with
    | 0 => none
    | nesting + 1 => (membersOf? nesting members).map fun ms => .object (sortMembers ms)
  | .unreadable => none
  | .cutOff => none

/-- The values of the items of a list. -/
def itemsOf? (nesting : Nat) : List Document → Option (List Json)
  | [] => some []
  | d :: rest =>
    match ofDocument? nesting d, itemsOf? nesting rest with
    | some item, some items => some (item :: items)
    | _, _ => none

/-- The values of the members of a record. -/
def membersOf? (nesting : Nat) : List (Option String × Document) → Option (List (String × Json))
  | [] => some []
  | (name, d) :: rest =>
    match name, ofDocument? nesting d, membersOf? nesting rest with
    | some name, some value, some members => some ((name, value) :: members)
    | _, _, _ => none

end

/-- Reads any value. -/
def decoder : Decoder Json := fun rules d =>
  match ofDocument? rules.nesting d with
  | some value => .ok value
  | none => .error .malformed

/-- Reads the members of an object. -/
def objectDecoder : Decoder (List (String × Json)) := fun rules d =>
  match d with
  | .record _ =>
    match ofDocument? rules.nesting d with
    | some (.object members) => .ok members
    | _ => .error .malformed
  | _ => .error .malformed

/-- The value a JSON text spells. -/
def parse? (s : String) : Option Json :=
  (Decoder.ofJson decoder s).toOption

/-- The members of the object a JSON text spells. -/
def parseObject? (s : String) : Option (List (String × Json)) :=
  match parse? s with
  | some (.object members) => some members
  | _ => none

/-- The compact text of a value. -/
def render (value : Json) : String := value.toDocument.render

end Json

end AlertRelay
