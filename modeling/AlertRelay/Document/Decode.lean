import AlertRelay.Document.Scan

/-!
# Decoding documents

A `Decoder` turns a document into a value or the first fault in the order of the text.
`Decoder.record` reads a record whose members may come in any order, or a list that gives the fields
in theirs; members that no field is named for are passed over. Nesting counts only where it is
decoded.
-/

namespace AlertRelay

/-- Why a document was refused. -/
inductive DecodeFault where
  /-- The text or the shape of the document is wrong. -/
  | malformed
  /-- A number lies outside the range that its field allows. -/
  | outOfRange (message : String)
  deriving DecidableEq, Inhabited

/-- What a format allows while a document is decoded. -/
structure DecodeRules where
  /-- How many lists and records may still be entered. -/
  nesting : Nat
  /-- Whether a list that stands for a record may hold more items than there are fields. -/
  surplusItems : Bool
  deriving DecidableEq, Inhabited

/-- The rules of JSON texts: 127 levels, and no surplus items. -/
def DecodeRules.json : DecodeRules := ⟨127, false⟩

/-- The rules of TOML texts, whose nesting is limited where they are read. -/
def DecodeRules.toml : DecodeRules := ⟨1000000, true⟩

/-- The rules inside a list or record, if it may be entered. -/
def DecodeRules.enter (rules : DecodeRules) : Except DecodeFault DecodeRules :=
  match rules.nesting with
  | 0 => .error .malformed
  | nesting + 1 => .ok ⟨nesting, rules.surplusItems⟩

/-- A reader of documents. -/
abbrev Decoder (α : Type) := DecodeRules → Document → Except DecodeFault α

namespace Decoder

/-- Reads a text. -/
def text : Decoder String
  | _, .text s => .ok s
  | _, _ => .error .malformed

/-- Reads a truth value. -/
def bool : Decoder Bool
  | _, .bool b => .ok b
  | _, _ => .error .malformed

/-- Reads an integer between two bounds. -/
def integer (least greatest : Int) : Decoder Int
  | _, .integer i => if least ≤ i ∧ i ≤ greatest then .ok i else .error .malformed
  | _, _ => .error .malformed

/-- Reads a natural number up to a bound. -/
def natural (greatest : Nat) : Decoder Nat := fun rules d =>
  (integer 0 greatest rules d).map Int.toNat

/-- Reads a number; an integer gives the nearest double. -/
def real : Decoder Float
  | _, .integer i => .ok (nearestDoubleOfInt i)
  | _, .real x => .ok x
  | _, _ => .error .malformed

/-- Reads nothing from null. -/
def unit : Decoder Unit
  | _, .null => .ok ()
  | _, _ => .error .malformed

/-- Reads a value that may be null. -/
def optional {α : Type} (decoder : Decoder α) : Decoder (Option α)
  | _, .null => .ok none
  | rules, d => (decoder rules d).map some

/-- Reads a text that `parse` understands. -/
def parsed {α : Type} (parse : String → Option α) : Decoder α
  | _, .text s =>
    match parse s with
    | some a => .ok a
    | none => .error .malformed
  | _, _ => .error .malformed

/-- Reads every item of a list. -/
def list {α : Type} (decoder : Decoder α) : Decoder (List α)
  | rules, .list items => do
    let inner ← rules.enter
    items.mapM (decoder inner)
  | _, _ => .error .malformed

/-- Passes over a well-formed value. -/
def skip (d : Document) : Except DecodeFault Unit :=
  if d.isWhole then .ok () else .error .malformed

/-- Reads every member of a record, given its name. -/
def members {α : Type} (decoder : Decoder α) : Decoder (List (String × α))
  | rules, .record members => do
    let inner ← rules.enter
    members.mapM fun (name, d) =>
      match name with
      | some name => (decoder inner d).map fun a => (name, a)
      | none => .error .malformed
  | _, _ => .error .malformed

/-- Reads one of several words, as a text or as the only member of a record, with null for its
value. -/
def choice {α : Type} (parse : String → Option α) : Decoder α
  | rules, .record [(some name, d)] => do
    let inner ← rules.enter
    match parse name with
    | some a => (unit inner d).map fun _ => a
    | none => .error .malformed
  | _, .text s =>
    match parse s with
    | some a => .ok a
    | none => .error .malformed
  | _, _ => .error .malformed

/-- One field of a record that is being read into a `β`: the names it goes by, whether it has been
read, and how it is read. -/
structure Field (β : Type) where
  names : List String
  present : β → Bool
  read : Decoder (β → β)

/-- A field under one name, kept in a place of the record being read. -/
def Field.named {α β : Type} (name : String) (decoder : Decoder α) (get : β → Option α)
    (set : α → β → β) : Field β where
  names := [name]
  present := fun found => (get found).isSome
  read := fun rules d => (decoder rules d).map set

/-- Reads the members of a record one after the other. A field may be given once only. -/
def readMembers {β : Type} (fields : List (Field β)) (rules : DecodeRules) :
    List (Option String × Document) → β → Except DecodeFault β
  | [], found => .ok found
  | (none, _) :: _, _ => .error .malformed
  | (some name, d) :: rest, found =>
    match fields.find? (fun field => field.names.contains name) with
    | none =>
      match skip d with
      | .ok () => readMembers fields rules rest found
      | .error fault => .error fault
    | some field =>
      if field.present found then .error .malformed
      else
        match field.read rules d with
        | .ok update => readMembers fields rules rest (update found)
        | .error fault => .error fault

/-- Reads the items of a list into the fields in their order. -/
def readItems {β : Type} (rules : DecodeRules) :
    List (Field β) → List Document → β → Except DecodeFault β
  | [], items, found =>
    if items.isEmpty || rules.surplusItems then .ok found else .error .malformed
  | _, [], found => .ok found
  | field :: fields, d :: items, found =>
    match field.read rules d with
    | .ok update => readItems rules fields items (update found)
    | .error fault => .error fault

/-- Reads a record into `blank` and completes it; `finish` refuses a record that lacks a field. -/
def record {α β : Type} (fields : List (Field β)) (blank : β) (finish : β → Option α) : Decoder α :=
  fun rules d =>
    let complete := fun (found : β) =>
      match finish found with
      | some a => Except.ok a
      | none => Except.error DecodeFault.malformed
    match d with
    | .record members => do
      let inner ← rules.enter
      complete (← readMembers fields inner members blank)
    | .list items => do
      let inner ← rules.enter
      complete (← readItems inner fields items blank)
    | _ => .error .malformed

/-- Decodes a JSON text; nothing but blanks may follow its value. -/
def ofJson {α : Type} (decoder : Decoder α) (s : String) : Except DecodeFault α := do
  let text := Document.ofJson s
  let a ← decoder .json text.document
  if text.complete then .ok a else .error .malformed

end Decoder

end AlertRelay
