import AlertRelay.Document.Render
import AlertRelay.Document.Scan

/-!
# Alert identifiers

A UUID is a number of 128 bits. It is written in lower case with hyphens, and read in that form with
letters of either case, without hyphens, in braces, or as a URN.
-/

namespace AlertRelay

/-- A universally unique identifier. -/
structure Uuid where
  value : Nat
  deriving DecidableEq, Inhabited

namespace Uuid

/-- Whether an identifier says of itself that it was drawn at random. -/
def isRandom (u : Uuid) : Bool :=
  u.value / 0x10000000000000000000 % 16 == 4 && u.value / 0x4000000000000000 % 4 == 2

/-- The lengths of the five groups of digits. -/
def groupLengths : List Nat := [8, 4, 4, 4, 12]

/-- The lowest `count` hexadecimal digits of a number, the highest first. -/
def hexDigits : Nat → Nat → List Char
  | 0, _ => []
  | count + 1, n => hexDigits count (n / 16) ++ [hexDigit (n % 16)]

/-- Digits set out in groups with hyphens between them. -/
def hyphenate : List Nat → List Char → List Char
  | [], _ => []
  | [count], digits => digits.take count
  | count :: rest, digits => digits.take count ++ '-' :: hyphenate rest (digits.drop count)

/-- The text of an identifier. -/
def render (u : Uuid) : String :=
  String.ofList (hyphenate groupLengths (hexDigits 32 u.value))

/-- The number that hexadecimal digits spell. -/
def ofHex? (digits : List Char) : Option Uuid :=
  (digits.foldlM (fun n c => (hexDigit? c).map fun d => n * 16 + d) 0).map Uuid.mk

/-- Digits without the hyphens between their groups. -/
def unhyphenate? : List Nat → List Char → Option (List Char)
  | [], s => if s.isEmpty then some [] else none
  | [count], s => if s.length = count then some s else none
  | count :: rest, s =>
    match s.drop count with
    | '-' :: after => (unhyphenate? rest after).map fun digits => s.take count ++ digits
    | _ => none

/-- The identifier that a text spells. -/
def parse? (s : String) : Option Uuid :=
  let cs := s.toList
  if cs.length = 32 then ofHex? cs
  else
    let inner :=
      if cs.length = 38 ∧ cs.head? = some '\x7b' ∧ cs.getLast? = some '\x7d' then
        (cs.drop 1).take 36
      else if cs.length = 45 ∧ cs.take 9 = "urn:uuid:".toList then cs.drop 9
      else cs
    if inner.length = 36 then (unhyphenate? groupLengths inner).bind ofHex? else none

end Uuid

end AlertRelay
