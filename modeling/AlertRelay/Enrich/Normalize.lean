import AlertRelay.Error
import AlertRelay.Event

/-!
# Recognizing the fields of raw events

A raw event is a flat JSON object. Its identifier, addresses, user and time are recognized; all
other members are kept as they are.
-/

namespace AlertRelay

/-- The members of a raw event, sorted by name. -/
abbrev RawEvent := List (String × Json)

namespace RawEvent

/-- The names that are recognized. -/
def recognized : List String := ["id", "src_ip", "dst_ip", "timestamp", "user_id"]

/-- The text of a number. -/
def numberText : Json → Option String
  | .integer i => some (toString i)
  | .real x => some (Binary64.ofFloat x).jsonText
  | _ => none

/-- The identifier of an event: a text that is not blank, without the blanks around it, or a number.
`fresh` stands in for one that is missing. -/
def identifier (fresh : Uuid) : Option Json → String
  | some (.text s) => if (trimText s).isEmpty then fresh.render else trimText s
  | some value => (numberText value).getD fresh.render
  | none => fresh.render

/-- The address under a name; null and the empty text count as missing. -/
def address (name : String) : Option Json → Except EnrichmentError (Option Address)
  | none => .ok none
  | some .null => .ok none
  | some (.text s) =>
    if s.isEmpty then .ok none
    else
      match Address.parse? (trimText s) with
      | some a => .ok (some a)
      | none => .error (.normalization ("invalid " ++ name))
  | some _ => .error (.normalization ("invalid " ++ name))

/-- Epoch values above this are milliseconds. -/
def millisThreshold : Float := 1e11

/-- A double as an integer, rounded to the nearest, halves away from zero, and kept within 64 bits.
-/
def roundToInt (x : Float) : Int :=
  match Binary64.ofFloat x.round with
  | .nan => 0
  | .infinite negative => if negative then -0x8000000000000000 else 0x7fffffffffffffff
  | .finite negative significand exponent =>
    let magnitude : Int := significand * pow2 exponent.toNat / pow2 (-exponent).toNat
    if negative then max (-0x8000000000000000) (-magnitude)
    else min 0x7fffffffffffffff magnitude

/-- The instant of an epoch value in seconds or milliseconds, to the millisecond. -/
def instantOfEpoch? (value : Float) : Option Instant :=
  let seconds := if millisThreshold < value then value / 1000.0 else value
  Instant.ofMillis? (roundToInt (seconds * 1000.0))

/-- The value of a text of digits. -/
def digitsValue? (s : String) : Option Float :=
  match takeDigits s.toList with
  | ([], _) => none
  | (digits, []) => some (Literal.nearest ⟨false, digits, none, none⟩)
  | _ => none

/-- The time of an event. -/
def time : Option Json → Except EnrichmentError Instant
  | none => .error (.normalization "timestamp required")
  | some .null => .error (.normalization "timestamp required")
  | some value =>
    let instant := match value with
      | .integer i => instantOfEpoch? (nearestDoubleOfInt i)
      | .real x => instantOfEpoch? x
      | .text s =>
        match digitsValue? s with
        | some x => instantOfEpoch? x
        | none => Instant.parse? (trimText s)
      | _ => none
    match instant with
    | some i => .ok i
    | none => .error (.normalization "invalid timestamp")

/-- The user of an event: a text as it is, or a number. -/
def user : Option Json → Option String
  | some (.text s) => some s
  | some value => numberText value
  | none => none

/-- The normal form of a raw event. `fresh` becomes the identifier of an event that has none. -/
def normalize (fresh : Uuid) (raw : RawEvent) : Except EnrichmentError Event := do
  let some source ← address "src_ip" (Json.member? "src_ip" raw)
    | .error (.normalization "src_ip required")
  let destination ← address "dst_ip" (Json.member? "dst_ip" raw)
  let instant ← time (Json.member? "timestamp" raw)
  return {
    id := identifier fresh (Json.member? "id" raw)
    source := source
    destination := destination
    user := user (Json.member? "user_id" raw)
    time := instant
    extra := raw.filter fun member => !recognized.contains member.1 }

end RawEvent

end AlertRelay
