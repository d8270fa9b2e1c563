import AlertRelay.Document.Basic

/-!
# Tables in TOML

How the keys and headers of a TOML text build up its tables. A table that was written under a header
or as a value is closed: only tables that came about on the way to another one may be extended,
those of dotted keys by dotted keys and those of headers by one header of their own. Members keep
the order in which they came in.
-/

namespace AlertRelay

namespace Toml

/-- How a table came about. -/
structure TableKind where
  /-- Whether the table came about on the way to another one. -/
  implicit : Bool
  /-- Whether the table came about through a dotted key. -/
  dotted : Bool
  deriving DecidableEq, Inhabited

/-- What a key stands for. -/
inductive Item where
  | value (document : Document)
  | table (kind : TableKind) (members : List (String × Item))
  /-- The tables of a header in double brackets. -/
  | tables (list : List (List (String × Item)))
  deriving Inhabited

/-- The members of a table. -/
abbrev Members := List (String × Item)

/-- The table of a header. -/
def TableKind.ofHeader : TableKind := ⟨false, false⟩

/-- A table on the way to the table of a header. -/
def TableKind.onTheWay : TableKind := ⟨true, false⟩

/-- A table of a dotted key. -/
def TableKind.ofDottedKey : TableKind := ⟨true, true⟩

namespace Members

/-- What a key stands for. -/
def find? (key : String) (members : Members) : Option Item :=
  (List.find? (fun m => m.1 = key) members).map Prod.snd

/-- Puts what a key stands for, in its place or at the end. -/
def put (key : String) (item : Item) : Members → Members
  | [] => [(key, item)]
  | (k, old) :: rest => if k = key then (k, item) :: rest else (k, old) :: put key item rest

/-- Takes a key out. -/
def remove (key : String) (members : Members) : Members :=
  List.filter (fun m => m.1 ≠ key) members

/-- Adds a member under a new key. -/
def add? (key : String) (item : Item) (members : Members) : Option Members :=
  match find? key members with
  | some _ => none
  | none => some (members ++ [(key, item)])

/-- Changes the last of a list. -/
def changeLast? {α : Type} (change : α → Option α) : List α → Option (List α)
  | [] => none
  | [a] => (change a).map fun a => [a]
  | a :: rest => (changeLast? change rest).map (a :: ·)

/-- Adds the value of a key. `path` are the parts of a dotted key before its last; `open_` says
whether dotted keys may add to this table. -/
def addValue? (key : String) (item : Item) (open_ : Bool) :
    (path : List String) → Members → Option Members
  | [], members => if open_ then add? key item members else none
  | k :: path, members =>
    match find? k members with
    | none =>
      (addValue? key item true path []).map fun inner =>
        put k (.table .ofDottedKey inner) members
    | some (.value _) => none
    | some (.tables list) =>
      (changeLast? (addValue? key item false path) list).map fun list =>
        put k (.tables list) members
    | some (.table kind inner) =>
      if kind.implicit then
        (addValue? key item kind.dotted path inner).map fun inner =>
          put k (.table kind inner) members
      else none

/-- Changes the table at the end of a path of headers; tables on the way come about if they are not
there. -/
def descend? (change : Members → Option Members) :
    (path : List String) → Members → Option Members
  | [], members => change members
  | k :: path, members =>
    match find? k members with
    | none =>
      (descend? change path []).map fun inner => put k (.table .onTheWay inner) members
    | some (.value _) => none
    | some (.tables list) =>
      (changeLast? (descend? change path) list).map fun list => put k (.tables list) members
    | some (.table kind inner) =>
      (descend? change path inner).map fun inner => put k (.table kind inner) members

/-- The table at the end of a path of headers, if it is there. -/
def at? : (path : List String) → Members → Option Members
  | [], members => some members
  | k :: path, members =>
    match find? k members with
    | some (.table _ inner) => at? path inner
    | some (.tables list) => list.getLast?.bind (at? path)
    | _ => none

end Members

/-- The tables built so far, and the table that is being filled. -/
structure Builder where
  root : Members
  /-- The header of the table that is being filled; none for the keys before the first header. -/
  header : Option (List String × String)
  /-- Whether the header is in double brackets. -/
  repeated : Bool
  current : Members

namespace Builder

/-- Nothing built yet. -/
def empty : Builder := ⟨[], none, false, []⟩

/-- Adds the value of a key to the table that is being filled. -/
def addKey? (b : Builder) (path : List String) (key : String) (d : Document) : Option Builder :=
  (Members.addValue? key (.value d) path.isEmpty path b.current).map fun current =>
    { b with current := current }

/-- Puts a finished table under its key. -/
def place? (key : String) (current : Members) (members : Members) : Option Members :=
  match Members.find? key members with
  | none => some (members ++ [(key, .table .ofHeader current)])
  | some (.table kind _) =>
    if kind.implicit then some (Members.put key (.table .ofHeader current) members) else none
  | some _ => none

/-- Adds a finished table to those of its key. -/
def append? (key : String) (current : Members) (members : Members) : Option Members :=
  match Members.find? key members with
  | none => some (members ++ [(key, .tables [current])])
  | some (.tables list) => some (Members.put key (.tables (list ++ [current])) members)
  | some _ => none

/-- Puts the table that is being filled into its place. -/
def finish? (b : Builder) : Option Members :=
  match b.header with
  | none => some b.current
  | some (path, key) =>
    Members.descend?
      (if b.repeated then append? key b.current else place? key b.current) path b.root

/-- Begins the table of a header. -/
def startTable? (b : Builder) (path : List String) (key : String) : Option Builder := do
  let root ← Members.descend? some path (← b.finish?)
  let parent ← Members.at? path root
  match Members.find? key parent with
  | none => return ⟨root, some (path, key), false, []⟩
  | some (.table kind inner) =>
    if kind = .onTheWay then
      let root ← Members.descend? (fun members => some (Members.remove key members)) path root
      return ⟨root, some (path, key), false, inner⟩
    else none
  | some _ => none

/-- Begins another table of a header in double brackets. -/
def startRepeated? (b : Builder) (path : List String) (key : String) : Option Builder := do
  let reserve : Members → Option Members := fun members =>
    match Members.find? key members with
    | none => some (members ++ [(key, .tables [])])
    | some (.tables _) => some members
    | some _ => none
  let root ← Members.descend? reserve path (← b.finish?)
  return ⟨root, some (path, key), true, []⟩

end Builder

mutual

/-- The document of what a key stands for. -/
def Item.toDocument : Item → Document
  | .value d => d
  | .table _ members => .record (memberDocuments members)
  | .tables list => .list (tableDocuments list)

/-- The members of a table as members of a record. -/
def memberDocuments : List (String × Item) → List (Option String × Document)
  | [] => []
  | (key, item) :: rest => (some key, item.toDocument) :: memberDocuments rest

/-- The tables of a key as records. -/
def tableDocuments : List (List (String × Item)) → List Document
  | [] => []
  | members :: rest => .record (memberDocuments members) :: tableDocuments rest

end

end Toml

end AlertRelay
