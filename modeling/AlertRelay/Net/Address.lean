import AlertRelay.Document.Render
import AlertRelay.Document.Scan

/-!
# Network addresses

Addresses of the two families, their texts, and the ranges that count as internal. An address of
version 6 is written with its longest run of zero groups left out, and one that maps an address of
version 4 ends in that address.
-/

namespace AlertRelay

/-- An address: four bytes, or eight groups of two. -/
inductive Address where
  | v4 (a b c d : Nat)
  | v6 (groups : List Nat)
  deriving DecidableEq, Inhabited

namespace Address

/-- Reads a byte: one to three digits, no zero before another digit. -/
def byte? (s : List Char) : Option (Nat × List Char) :=
  match takeDigits s with
  | ([], _) => none
  | (0 :: _ :: _, _) => none
  | (digits, rest) =>
    let n := Literal.ofDigits digits
    if digits.length ≤ 3 ∧ n < 256 then some (n, rest) else none

/-- Reads one given character. -/
def mark? (c : Char) : List Char → Option (List Char)
  | d :: rest => if d = c then some rest else none
  | [] => none

/-- Reads four bytes with points between them. -/
def fourBytes? (s : List Char) : Option ((Nat × Nat × Nat × Nat) × List Char) := do
  let (a, s) ← byte? s
  let s ← mark? '.' s
  let (b, s) ← byte? s
  let s ← mark? '.' s
  let (c, s) ← byte? s
  let s ← mark? '.' s
  let (d, s) ← byte? s
  return ((a, b, c, d), s)

/-- The values of the hexadecimal digits a text starts with, and the rest. -/
def takeHexDigits : List Char → List Nat × List Char
  | [] => ([], [])
  | c :: rest =>
    match hexDigit? c with
    | some d => let (ds, after) := takeHexDigits rest; (d :: ds, after)
    | none => ([], c :: rest)

/-- Reads a group: one to four hexadecimal digits. -/
def group? (s : List Char) : Option (Nat × List Char) :=
  match takeHexDigits s with
  | ([], _) => none
  | (digits, rest) =>
    if digits.length ≤ 4 then some (digits.foldl (fun n d => n * 16 + d) 0, rest) else none

/-- Groups that were read, whether they end in four bytes, and the rest of the text. -/
structure Groups where
  groups : List Nat
  endsInBytes : Bool
  rest : List Char

/-- Reads up to `room` groups with colons between them; four bytes may stand for the last two. -/
def readGroups (room : Nat) (first : Bool) (s : List Char) : Groups :=
  match room with
  | 0 => ⟨[], false, s⟩
  | room + 1 =>
    match (if first then some s else mark? ':' s) with
    | none => ⟨[], false, s⟩
    | some inner =>
      match (if room = 0 then none else fourBytes? inner) with
      | some ((a, b, c, d), rest) => ⟨[a * 256 + b, c * 256 + d], true, rest⟩
      | none =>
        match group? inner with
        | none => ⟨[], false, s⟩
        | some (g, rest) =>
          let more := readGroups room false rest
          ⟨g :: more.groups, more.endsInBytes, more.rest⟩

/-- Reads an address of version 6: eight groups, or fewer around a double colon. -/
def sixteenBytes? (s : List Char) : Option (List Nat × List Char) :=
  let head := readGroups 8 true s
  if head.groups.length = 8 then some (head.groups, head.rest)
  else if head.endsInBytes then none
  else
    match head.rest with
    | ':' :: ':' :: rest =>
      let tail := readGroups (7 - head.groups.length) true rest
      let zeros := 8 - head.groups.length - tail.groups.length
      some (head.groups ++ List.replicate zeros 0 ++ tail.groups, tail.rest)
    | _ => none

/-- Reads an address at the start of a text. -/
def scan? (s : List Char) : Option (Address × List Char) :=
  match fourBytes? s with
  | some ((a, b, c, d), rest) => some (.v4 a b c d, rest)
  | none => (sixteenBytes? s).map fun (groups, rest) => (.v6 groups, rest)

/-- The address that a text spells. -/
def parse? (s : String) : Option Address :=
  match scan? s.toList with
  | some (address, []) => some address
  | _ => none

/-- The text of four bytes. -/
def bytesText (a b c d : Nat) : List Char :=
  Nat.toDigits 10 a ++ '.' :: Nat.toDigits 10 b ++ '.' :: Nat.toDigits 10 c ++
    '.' :: Nat.toDigits 10 d

/-- The text of groups, with colons between them. -/
def groupsText : List Nat → List Char
  | [] => []
  | [g] => Nat.toDigits 16 g
  | g :: rest => Nat.toDigits 16 g ++ ':' :: groupsText rest

/-- The start and length of the first longest run of zeros. `current` is the run that ends before
`position`. -/
def longestZeros (position : Nat) (current best : Nat × Nat) : List Nat → Nat × Nat
  | [] => best
  | g :: rest =>
    if g = 0 then
      let current := if current.2 = 0 then (position, 1) else (current.1, current.2 + 1)
      let best := if best.2 < current.2 then current else best
      longestZeros (position + 1) current best rest
    else longestZeros (position + 1) (0, 0) best rest

/-- The characters of an address. -/
def chars : Address → List Char
  | v4 a b c d => bytesText a b c d
  | v6 groups =>
    match groups with
    | [0, 0, 0, 0, 0, 0xffff, g, h] =>
      "::ffff:".toList ++ bytesText (g / 256) (g % 256) (h / 256) (h % 256)
    | _ =>
      let (start, length) := longestZeros 0 (0, 0) (0, 0) groups
      if 1 < length then
        groupsText (groups.take start) ++ ':' :: ':' :: groupsText (groups.drop (start + length))
      else groupsText groups

/-- The text of an address. -/
def render (a : Address) : String := String.ofList a.chars

/-- Whether an address is private, of the host itself or, for version 4, of the link. -/
def isInternal : Address → Bool
  | v4 a b _ _ =>
    a == 10 || (a == 172 && 16 ≤ b && b ≤ 31) || (a == 192 && b == 168) || a == 127 ||
      (a == 169 && b == 254)
  | v6 groups =>
    groups == [0, 0, 0, 0, 0, 0, 0, 1] || groups.headD 0 / 0x200 == 0x7e

/-- Reads a number without a limit on its digits, up to a bound. -/
def bounded? (greatest : Nat) (s : List Char) : Option (Nat × List Char) :=
  match takeDigits s with
  | ([], _) => none
  | (digits, rest) =>
    let n := Literal.ofDigits digits
    if n ≤ greatest then some (n, rest) else none

/-- Reads a colon and a port. -/
def port? (s : List Char) : Option (List Char) := do
  let s ← mark? ':' s
  let (_, rest) ← bounded? 65535 s
  return rest

/-- Reads the zone of an address, if there is one. -/
def zone? : List Char → Option (List Char)
  | '%' :: rest => (bounded? 0xffffffff rest).map Prod.snd
  | s => some s

/-- Reads an address with a port: that of version 6 stands in brackets. -/
def endpoint? (s : List Char) : Option (List Char) :=
  match (do let (_, rest) ← fourBytes? s; port? rest : Option (List Char)) with
  | some rest => some rest
  | none => do
    let s ← mark? '[' s
    let (_, rest) ← sixteenBytes? s
    let rest ← zone? rest
    let rest ← mark? ']' rest
    port? rest

/-- Whether a text spells an address and a port. -/
def isEndpoint (s : String) : Bool :=
  endpoint? s.toList == some []

end Address

end AlertRelay
