/-!
# SipHash

SipHash with one round per word and three at the end, under the zero key. It spreads partitions over
workers and keyed messages over partitions.
-/

namespace AlertRelay

/-- The four words that SipHash stirs. -/
structure SipState where
  v0 : UInt64
  v1 : UInt64
  v2 : UInt64
  v3 : UInt64
  deriving DecidableEq, Inhabited

namespace SipState

/-- A word with its bits turned to the left. -/
def rotate (x : UInt64) (count : UInt64) : UInt64 :=
  (x <<< count) ||| (x >>> (64 - count))

/-- The state before any word, under the zero key. -/
def initial : SipState :=
  ⟨0x736f6d6570736575, 0x646f72616e646f6d, 0x6c7967656e657261, 0x7465646279746573⟩

/-- One round. -/
def round (s : SipState) : SipState :=
  let v0 := s.v0 + s.v1
  let v1 := rotate s.v1 13 ^^^ v0
  let v0 := rotate v0 32
  let v2 := s.v2 + s.v3
  let v3 := rotate s.v3 16 ^^^ v2
  let v0 := v0 + v3
  let v3 := rotate v3 21 ^^^ v0
  let v2 := v2 + v1
  let v1 := rotate v1 17 ^^^ v2
  let v2 := rotate v2 32
  ⟨v0, v1, v2, v3⟩

/-- Takes in one word. -/
def absorb (s : SipState) (word : UInt64) : SipState :=
  let stirred := round { s with v3 := s.v3 ^^^ word }
  { stirred with v0 := stirred.v0 ^^^ word }

/-- The hash, after three closing rounds. -/
def finish (s : SipState) : UInt64 :=
  let s := round (round (round { s with v2 := s.v2 ^^^ 0xff }))
  s.v0 ^^^ s.v1 ^^^ s.v2 ^^^ s.v3

end SipState

/-- The number that bytes spell, the lowest first. -/
def littleEndian (bytes : List UInt8) : UInt64 :=
  bytes.foldr (fun b n => n * 256 + b.toUInt64) 0

/-- The lowest `count` bytes of a number, the lowest first. -/
def littleEndianBytes : Nat → Nat → List UInt8
  | 0, _ => []
  | count + 1, n => UInt8.ofNat (n % 256) :: littleEndianBytes count (n / 256)

/-- Takes in whole words, then the bytes left over with the length in the highest byte. -/
def sipWords (length : Nat) (s : SipState) : List UInt8 → SipState
  | a :: b :: c :: d :: e :: f :: g :: h :: rest =>
    sipWords length (s.absorb (littleEndian [a, b, c, d, e, f, g, h])) rest
  | rest =>
    s.absorb (littleEndian rest ||| (UInt64.ofNat (length % 256) <<< 56))

/-- The hash of a list of bytes. -/
def sipHash (bytes : List UInt8) : UInt64 :=
  (sipWords bytes.length .initial bytes).finish

end AlertRelay
