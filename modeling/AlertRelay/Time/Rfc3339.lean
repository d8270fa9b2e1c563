import AlertRelay.Document.Scan
import AlertRelay.Number.Powers
import AlertRelay.Text.Blank
import AlertRelay.Time.Instant

/-!
# Written times

`Instant.render` writes an instant as RFC 3339 in UTC. `Instant.parse?` reads RFC 3339 as raw events
give it, also with a 60th second in any minute or a typographic minus sign; `Instant.parseRelaxed?`
reads what a decoder of events admits besides: single digits, blanks around the parts, a year with a
sign, and `UTC` for the offset.
-/

namespace AlertRelay

/-- A number with zeros before it, at least `width` digits. -/
def padded (width n : Nat) : List Char :=
  let digits := Nat.toDigits 10 n
  List.replicate (width - digits.length) '0' ++ digits

/-- The time of day and date as written, before its offset is taken off. -/
structure WrittenTime where
  date : Date
  hour : Nat
  minute : Nat
  second : Nat
  nanos : Nat
  deriving DecidableEq, Inhabited

namespace WrittenTime

/-- Puts the parts together where they name a date and a time of day. The second may be the 60th, in
any minute. -/
def ofParts? (year : Int) (month day hour minute second nanos : Nat) : Option WrittenTime :=
  match Date.ofParts? year month day with
  | some date =>
    if hour < 24 ∧ minute < 60 ∧ second ≤ 60 then some ⟨date, hour, minute, second, nanos⟩ else none
  | none => none

/-- The instant of a written time with an offset in seconds east. A 60th second is kept as a
fraction of more than a second. -/
def toInstant? (t : WrittenTime) (offset : Int) : Option Instant :=
  let second := min t.second 59
  let nanos := if t.second = 60 then t.nanos + 1000000000 else t.nanos
  let seconds := t.date.dayNumber * 86400 + (t.hour * 3600 + t.minute * 60 + second : Nat) - offset
  Instant.ofSeconds? seconds nanos

end WrittenTime

namespace Instant

/-- The fraction of a second as written: none, or the fewest of three, six or nine digits. -/
def fractionText (nanos : Nat) : List Char :=
  if nanos = 0 then []
  else if nanos % 1000000 = 0 then '.' :: padded 3 (nanos / 1000000)
  else if nanos % 1000 = 0 then '.' :: padded 6 (nanos / 1000)
  else '.' :: padded 9 nanos

/-- The year as written: four digits, and a sign where four digits do not suffice. -/
def yearText (year : Int) : List Char :=
  if 0 ≤ year ∧ year ≤ 9999 then padded 4 year.toNat
  else (if year < 0 then '-' else '+') :: padded 4 year.natAbs

/-- The RFC 3339 text of an instant, in UTC. -/
def render (i : Instant) : String :=
  let date := Date.ofDayNumber (i.seconds / 86400)
  let ofDay := (i.seconds % 86400).toNat
  let second := if 1000000000 ≤ i.nanos then ofDay % 60 + 1 else ofDay % 60
  String.ofList <|
    yearText date.year ++ '-' :: padded 2 date.month ++ '-' :: padded 2 date.day ++
      'T' :: padded 2 (ofDay / 3600) ++ ':' :: padded 2 (ofDay / 60 % 60) ++
      ':' :: padded 2 second ++ fractionText (i.nanos % 1000000000) ++ ['Z']

/-- Reads a number of at least `least` and at most `most` digits. -/
def number? (least most : Nat) (s : List Char) : Option (Nat × List Char) :=
  let digits := (takeDigits (s.take most)).1
  if digits.length < least then none
  else some (Literal.ofDigits digits, s.drop digits.length)

/-- Reads one given character. -/
def char? (c : Char) : List Char → Option (List Char)
  | d :: rest => if d = c then some rest else none
  | [] => none

/-- Reads the fraction after the point: up to nine digits count, any further are passed over. -/
def nanos? (s : List Char) : Option (Nat × List Char) :=
  let digits := (takeDigits (s.take 9)).1
  if digits.isEmpty then none
  else some (Literal.ofDigits digits * pow10 (9 - digits.length),
    (takeDigits (s.drop digits.length)).2)

/-- Reads a fraction if a point follows. -/
def fraction? : List Char → Option (Nat × List Char)
  | '.' :: rest => nanos? rest
  | s => some (0, s)

/-- Reads the mark between date and time. -/
def separator? : List Char → Option (List Char)
  | c :: rest => if c = 'T' ∨ c = 't' ∨ c = ' ' then some rest else none
  | [] => none

/-- Reads an offset: `Z`, or a sign, two digits of hours and two of minutes, with what `between`
takes between them. The result is in seconds east. -/
def offset? (between : List Char → Option (List Char)) : List Char → Option (Int × List Char)
  | c :: rest =>
    if c = 'Z' ∨ c = 'z' then some (0, rest)
    else if c = '+' ∨ c = '-' ∨ c = '\u2212' then do
      let (hours, rest) ← number? 2 2 rest
      let rest ← between rest
      let (minutes, rest) ← number? 2 2 rest
      if minutes < 60 then
        let seconds : Int := hours * 3600 + minutes * 60
        some (if c = '+' then seconds else -seconds, rest)
      else none
    else none
  | [] => none

/-- The greatest offset that RFC 3339 can write. -/
def maxOffset : Int := (23 * 60 + 59) * 60

/-- Reads a time as RFC 3339 writes it: two-digit parts, four for the year, and an offset. -/
def parse? (s : String) : Option Instant := do
  let (year, rest) ← number? 4 4 s.toList
  let rest ← char? '-' rest
  let (month, rest) ← number? 2 2 rest
  let rest ← char? '-' rest
  let (day, rest) ← number? 2 2 rest
  let rest ← separator? rest
  let (hour, rest) ← number? 2 2 rest
  let rest ← char? ':' rest
  let (minute, rest) ← number? 2 2 rest
  let rest ← char? ':' rest
  let (second, rest) ← number? 2 2 rest
  let (nanos, rest) ← fraction? rest
  let (offset, rest) ← offset? (char? ':') rest
  if -maxOffset ≤ offset ∧ offset ≤ maxOffset ∧ rest.isEmpty then
    let t ← WrittenTime.ofParts? year month day hour minute second nanos
    t.toInstant? offset
  else none

/-- Reads the year: at most four digits, or any number of them after a sign. -/
def year? : List Char → Option (Int × List Char)
  | '-' :: rest => (number? 1 rest.length rest).map fun (n, after) => (-(n : Int), after)
  | '+' :: rest => (number? 1 rest.length rest).map fun (n, after) => ((n : Int), after)
  | s => (number? 1 4 s).map fun (n, after) => ((n : Int), after)

/-- Reads a part of one or two digits after blanks. -/
def part? (s : List Char) : Option (Nat × List Char) :=
  number? 1 2 (dropBlanks s)

/-- Reads a character after blanks. -/
def mark? (c : Char) (s : List Char) : Option (List Char) :=
  char? c (dropBlanks s)

/-- Reads an offset where `UTC`, in any case, stands for `Z`, and colons and blanks may stand
between hours and minutes. -/
def relaxedOffset? (s : List Char) : Option (Int × List Char) :=
  match s with
  | u :: t :: c :: rest =>
    if (u = 'U' ∨ u = 'u') ∧ (t = 'T' ∨ t = 't') ∧ (c = 'C' ∨ c = 'c') then some (0, rest)
    else offset? (fun s => some (s.dropWhile fun c => c = ':' || isBlank c)) s
  | _ => offset? (fun s => some (s.dropWhile fun c => c = ':' || isBlank c)) s

/-- Reads a time as a decoder of events admits it. -/
def parseRelaxed? (s : String) : Option Instant := do
  let (year, rest) ← year? (dropBlanks s.toList)
  let rest ← mark? '-' rest
  let (month, rest) ← part? rest
  let rest ← mark? '-' rest
  let (day, rest) ← part? rest
  let rest ← separator? rest
  let (hour, rest) ← part? rest
  let rest ← mark? ':' rest
  let (minute, rest) ← part? rest
  let rest ← mark? ':' rest
  let (second, rest) ← part? rest
  let (nanos, rest) ← fraction? rest
  let (offset, rest) ← relaxedOffset? (dropBlanks rest)
  if -86400 < offset ∧ offset < 86400 ∧ (dropBlanks rest).isEmpty then
    let t ← WrittenTime.ofParts? year month day hour minute second nanos
    t.toInstant? offset
  else none

end Instant

end AlertRelay
