import AlertRelay.Time.Instant
import AlertRelay.Toml.Numbers

/-!
# Dates and times in TOML

A date, a time, or both with or without an offset. No setting is a date or a time, but they may be
given for settings that are unknown; where a value is asked for, each is a record of one member.
-/

namespace AlertRelay

namespace Toml

/-- Reads so many decimal digits. -/
def fixedDigits : Nat → Nat → List Char → Option (Nat × List Char)
  | 0, n, cs => some (n, cs)
  | count + 1, n, c :: rest =>
    match decimalDigit? c with
    | some d => fixedDigits count (n * 10 + d) rest
    | none => none
  | _ + 1, _, [] => none

/-- Reads two digits between two bounds. -/
def twoDigits (least greatest : Nat) (cs : List Char) : Option (Nat × List Char) :=
  match fixedDigits 2 0 cs with
  | some (n, rest) => if least ≤ n ∧ n ≤ greatest then some (n, rest) else none
  | none => none

/-- A number in so many decimal digits. -/
def padded (width n : Nat) : String :=
  let digits := toString n
  String.ofList (List.replicate (width - digits.length) '0') ++ digits

/-- The number of days of a month. -/
def daysOfMonth (year month : Nat) : Nat :=
  if month = 2 then if year % 4 = 0 ∧ (year % 100 ≠ 0 ∨ year % 400 = 0) then 29 else 28
  else if month = 4 ∨ month = 6 ∨ month = 9 ∨ month = 11 then 30
  else 31

/-- Reads a date. -/
def date (cs : List Char) : Reading String :=
  match fixedDigits 4 0 cs with
  | some (year, '-' :: rest) =>
    match twoDigits 1 12 rest with
    | some (month, '-' :: rest) =>
      match twoDigits 1 31 rest with
      | some (day, rest) =>
        if day ≤ daysOfMonth year month then
          .found (padded 4 year ++ "-" ++ padded 2 month ++ "-" ++ padded 2 day) rest
        else .broken
      | none => .broken
    | _ => .broken
  | _ => .absent

/-- The text of a fraction of a second, to the nanosecond and without trailing zeros. -/
def fractionText (digits : List Nat) : String :=
  let kept := ((digits.take 9).reverse.dropWhile (· == 0)).reverse
  if kept.isEmpty then "" else "." ++ String.ofList (kept.map fun d => Char.ofNat (48 + d))

/-- Reads the fraction of a second that may follow. -/
def secondFraction : List Char → String × List Char
  | '.' :: rest =>
    match takeDigits rest with
    | ([], _) => ("", '.' :: rest)
    | (digits, after) => (fractionText digits, after)
  | cs => ("", cs)

/-- Reads a time of day. -/
def time (cs : List Char) : Reading String :=
  match twoDigits 0 23 cs with
  | some (hour, ':' :: rest) =>
    match twoDigits 0 59 rest with
    | some (minute, ':' :: rest) =>
      match twoDigits 0 60 rest with
      | some (second, rest) =>
        let (fraction, rest) := secondFraction rest
        .found (padded 2 hour ++ ":" ++ padded 2 minute ++ ":" ++ padded 2 second ++ fraction) rest
      | none => .broken
    | _ => .broken
  | _ => .absent

/-- Reads the offset of a time that may follow. -/
def offset : List Char → Reading String
  | [] => .found "" []
  | c :: rest =>
    if c = 'Z' ∨ c = 'z' then .found "Z" rest
    else if c = '+' ∨ c = '-' then
      match twoDigits 0 23 rest with
      | some (hour, ':' :: rest) =>
        match twoDigits 0 59 rest with
        | some (minute, rest) =>
          .found (String.ofList [c] ++ padded 2 hour ++ ":" ++ padded 2 minute) rest
        | none => .broken
      | _ => .broken
    else .found "" (c :: rest)

/-- Reads the time that may follow a date. -/
def timeOfDate (date : String) (cs : List Char) : Reading String :=
  match cs with
  | c :: rest =>
    if c = 'T' ∨ c = 't' ∨ c = ' ' then
      match time rest with
      | .found time rest =>
        match offset rest with
        | .found offset rest => .found (date ++ "T" ++ time ++ offset) rest
        | _ => .broken
      | .absent => .found date cs
      | .broken => .broken
    else .found date cs
  | [] => .found date []

/-- The member under which a date or time stands where a value is asked for. -/
def momentMember : String := "$__toml_private_datetime"

/-- Reads a date, a time, or both. -/
def moment (cs : List Char) : Reading Document :=
  let read := match date cs with
    | .found date rest => timeOfDate date rest
    | .broken => .broken
    | .absent => time cs
  match read with
  | .found text rest => .found (.ofFields [(momentMember, .text text)]) rest
  | .absent => .absent
  | .broken => .broken

end Toml

end AlertRelay
