import AlertRelay.Text.Blank

/-!
# Filters of diagnostics

A filter is a list of directives, parted by commas. A directive names a level, and before it the
target, the span and the fields that the level holds for. Directives are kept with the more specific
ones first; of two that hold for the same thing the later counts.
-/

namespace AlertRelay

/-- How much is let through. -/
inductive FilterLevel where
  | off
  | error
  | warn
  | info
  | debug
  | trace
  deriving DecidableEq, Inhabited

/-- A directive of a filter. -/
structure FilterDirective where
  target : Option String
  span : Option String
  /-- Fields with the value they must have, if one is given. -/
  fields : List (String × Option String)
  level : FilterLevel
  deriving DecidableEq, Inhabited

/-- A filter: what can be decided once for each place in a program, and what depends on spans. -/
structure LogFilter where
  fixed : List FilterDirective
  dynamic : List FilterDirective
  deriving DecidableEq, Inhabited

namespace FilterLevel

/-- The name of a level. -/
def name : FilterLevel → String
  | off => "off"
  | error => "error"
  | warn => "warn"
  | info => "info"
  | debug => "debug"
  | trace => "trace"

/-- All levels, by the number that may stand for them. -/
def all : List FilterLevel := [off, error, warn, info, debug, trace]

/-- The level of a number: digits after an optional plus sign. -/
def ofNumber? (s : String) : Option FilterLevel :=
  let digits := match s.toList with
    | '+' :: rest => rest
    | cs => cs
  if digits.isEmpty || !digits.all Char.isDigit then none
  else all[digits.foldl (fun n c => n * 10 + (c.toNat - 48)) 0]?

/-- The level of a number or of a name in either case. -/
def ofText? (s : String) : Option FilterLevel :=
  (ofNumber? s).or <|
    if s.isEmpty then some error else all.find? fun level => level.name = s.toLower

end FilterLevel

namespace FilterDirective

/-- The directive that lets everything through. -/
def everything : FilterDirective := ⟨none, none, [], .trace⟩

/-- Where the reader of a directive stands, with the place at which the current part began. -/
inductive Place where
  | start
  | levelOrTarget (start : Nat)
  | span (start : Nat)
  | field (start : Nat)
  | afterFields
  | afterSpan
  | level (start : Nat)

/-- The characters between two places. -/
def slice (text : List Char) (first last : Nat) : String :=
  String.ofList ((text.drop first).take (last - first))

/-- A field, with the value after its first equals sign. -/
def fieldOf (s : String) : String × Option String :=
  match s.toList.span (· ≠ '=') with
  | (name, '=' :: value) => (String.ofList name, some (String.ofList value))
  | (name, _) => (String.ofList name, none)

/-- Adds a field; an empty one is wrong. -/
def withField? (d : FilterDirective) (s : String) : Option FilterDirective :=
  if s.isEmpty then none else some { d with fields := d.fields ++ [fieldOf s] }

/-- Whether a character may begin a target or a level. -/
def beginsName (c : Char) : Bool :=
  c == '-' || c == ':' || c == '_' || c.isAlphanum || (0x80 ≤ c.toNat && !isBlank c)

/-- Goes past the character at a place. -/
def advance? (text : List Char) (at_ : Nat) (d : FilterDirective) (c : Char) :
    Place → Option (Place × FilterDirective)
  | .start =>
    if c = '[' then some (.span (at_ + 1), d)
    else if beginsName c then some (.levelOrTarget at_, d)
    else none
  | .levelOrTarget start =>
    if c = '=' then some (.level (at_ + 1), { d with target := some (slice text start at_) })
    else if c = '[' then some (.span (at_ + 1), { d with target := some (slice text start at_) })
    else some (.levelOrTarget start, d)
  | .span start =>
    if c = ']' then some (.afterSpan, { d with span := some (slice text start at_) })
    else if c = '\x7b' then
      let name := slice text start at_
      some (.field (at_ + 1), { d with span := if name.isEmpty then none else some name })
    else some (.span start, d)
  | .field start =>
    if c = '\x7d' then
      (d.withField? (slice text start at_)).map fun d => (.afterFields, d)
    else if c = ',' then
      (d.withField? (slice text start at_)).map fun d => (.field (at_ + 1), d)
    else some (.field start, d)
  | .afterFields => if c = ']' then some (.afterSpan, d) else none
  | .afterSpan => if c = '=' then some (.level (at_ + 1), d) else none
  | .level start => some (.level start, d)

/-- Goes past characters. -/
def advanceAll? (text : List Char) :
    List Char → Nat → Place → FilterDirective → Option (Place × FilterDirective)
  | [], _, place, d => some (place, d)
  | c :: rest, at_, place, d =>
    match advance? text at_ d c place with
    | some (place, d) => advanceAll? text rest (at_ + 1) place d
    | none => none

/-- What is left of a text from a place on. -/
def remainder (text : List Char) (first : Nat) : String := String.ofList (text.drop first)

/-- The directive when its text is over. A target without a level lets everything through. -/
def finish? (text : List Char) (d : FilterDirective) : Place → Option FilterDirective
  | .levelOrTarget start =>
    let s := remainder text start
    match FilterLevel.ofText? s with
    | some level => some { d with level := level }
    | none => some { d with target := some s }
  | .level start =>
    let s := remainder text start
    if s.isEmpty then some { d with level := .trace }
    else (FilterLevel.ofText? s).map fun level => { d with level := level }
  | .afterSpan => some d
  | _ => none

/-- The directive of a text. The characters between the blanks around it are gone through, while its
parts are cut from the whole text. -/
def parse? (s : String) : Option FilterDirective := do
  let text := s.toList
  let (place, d) ← advanceAll? text (trimBlanks text) 0 .start everything
  finish? text d place

/-- Whether a directive depends on spans or fields. -/
def isDynamic (d : FilterDirective) : Bool := d.span.isSome || !d.fields.isEmpty

/-- The part of a directive that can be decided once for each place in a program. -/
def fixedPart? (d : FilterDirective) : Option FilterDirective :=
  if d.span.isSome || d.fields.any fun f => f.2.isSome then none else some d

/-- The length of an optional text in bytes, one more than without a text. -/
def length? : Option String → Nat
  | some s => s.utf8ByteSize + 1
  | none => 0

/-- The order of optional texts; none comes first. -/
def compareText : Option String → Option String → Ordering
  | none, none => .eq
  | none, some _ => .lt
  | some _, none => .gt
  | some a, some b => compare a b

/-- The order of fields. -/
def compareFields : List (String × Option String) → List (String × Option String) → Ordering
  | [], [] => .eq
  | [], _ :: _ => .lt
  | _ :: _, [] => .gt
  | a :: as, b :: bs =>
    ((compare a.1 b.1).then (compareText a.2 b.2)).then (compareFields as bs)

/-- How specific a directive is beside another one. -/
def specificity (a b : FilterDirective) : Ordering :=
  ((((((compare (length? a.target) (length? b.target)).then
    (compare a.span.isSome.toNat b.span.isSome.toNat)).then
    (compare a.fields.length b.fields.length)).then
    (compareText a.target b.target)).then
    (compareText a.span b.span)).then
    (compareFields a.fields b.fields))

/-- Puts a directive in its place, the more specific first; one for the same thing is replaced. -/
def insert (d : FilterDirective) : List FilterDirective → List FilterDirective
  | [] => [d]
  | other :: rest =>
    match specificity d other with
    | .gt => d :: other :: rest
    | .eq => d :: rest
    | .lt => other :: insert d rest

/-- The text of a field. -/
def fieldText : String × Option String → String
  | (name, some value) => name ++ "=" ++ value
  | (name, none) => name

/-- What a directive holds for. -/
def scopeText (d : FilterDirective) : String :=
  let fields :=
    if d.fields.isEmpty then "" else "\x7b" ++ ",".intercalate (d.fields.map fieldText) ++ "\x7d"
  d.target.getD "" ++ if d.isDynamic then "[" ++ d.span.getD "" ++ fields ++ "]" else ""

/-- The text of a directive. -/
def render (d : FilterDirective) : String :=
  (if d.target.isSome || d.isDynamic then d.scopeText ++ "=" else "") ++ d.level.name

end FilterDirective

namespace LogFilter

/-- The filter of directives; without any, only errors are let through. -/
def ofDirectives (list : List FilterDirective) : LogFilter :=
  let dynamic := list.filter FilterDirective.isDynamic
  let fixed := (list.filter fun d => !d.isDynamic).filterMap FilterDirective.fixedPart? ++
    dynamic.filterMap FilterDirective.fixedPart?
  if list.isEmpty then ⟨[{ FilterDirective.everything with level := .error }], []⟩
  else ⟨fixed.foldl (fun sorted d => d.insert sorted) [],
    dynamic.foldl (fun sorted d => d.insert sorted) []⟩

/-- The texts of the directives of a filter. -/
def parts (s : String) : List String :=
  (s.splitOn ",").filter fun part => !part.isEmpty

/-- The filter of a text whose directives are all well formed. -/
def parse? (s : String) : Option LogFilter :=
  ((parts s).mapM FilterDirective.parse?).map ofDirectives

/-- The filter of a text; directives that are not well formed are left out. -/
def parseLossy (s : String) : LogFilter := ofDirectives ((parts s).filterMap FilterDirective.parse?)

/-- The filter that the environment asks for, or else that of the settings. -/
def ofSettings (environment : Option String) (level : String) : LogFilter :=
  (environment.bind parse?).getD (parseLossy level)

/-- The text of a filter. -/
def render (f : LogFilter) : String :=
  ",".intercalate ((f.fixed ++ f.dynamic).map FilterDirective.render)

end LogFilter

end AlertRelay
