/-!
# Digests

The SHA-256 digest of a text. The bytes of the text are filled up to whole blocks of 64, each
block is stretched to 64 words, and 64 rounds mix these into a state of eight words.
-/

set_option autoImplicit false

namespace Sharding.Digest

/-- The first 32 bits of the fractional parts of the cube roots of the first 64 primes. -/
def roundConstants : List UInt32 :=
  [0x428a2f98, 0x71374491, 0xb5c0fbcf, 0xe9b5dba5, 0x3956c25b, 0x59f111f1, 0x923f82a4, 0xab1c5ed5,
    0xd807aa98, 0x12835b01, 0x243185be, 0x550c7dc3, 0x72be5d74, 0x80deb1fe, 0x9bdc06a7, 0xc19bf174,
    0xe49b69c1, 0xefbe4786, 0x0fc19dc6, 0x240ca1cc, 0x2de92c6f, 0x4a7484aa, 0x5cb0a9dc, 0x76f988da,
    0x983e5152, 0xa831c66d, 0xb00327c8, 0xbf597fc7, 0xc6e00bf3, 0xd5a79147, 0x06ca6351, 0x14292967,
    0x27b70a85, 0x2e1b2138, 0x4d2c6dfc, 0x53380d13, 0x650a7354, 0x766a0abb, 0x81c2c92e, 0x92722c85,
    0xa2bfe8a1, 0xa81a664b, 0xc24b8b70, 0xc76c51a3, 0xd192e819, 0xd6990624, 0xf40e3585, 0x106aa070,
    0x19a4c116, 0x1e376c08, 0x2748774c, 0x34b0bcb5, 0x391c0cb3, 0x4ed8aa4a, 0x5b9cca4f, 0x682e6ff3,
    0x748f82ee, 0x78a5636f, 0x84c87814, 0x8cc70208, 0x90befffa, 0xa4506ceb, 0xbef9a3f7, 0xc67178f2]

structure State where
  a : UInt32
  b : UInt32
  c : UInt32
  d : UInt32
  e : UInt32
  f : UInt32
  g : UInt32
  h : UInt32
  deriving DecidableEq, Repr

/-- The first 32 bits of the fractional parts of the square roots of the first eight primes. -/
def State.initial : State :=
  ⟨0x6a09e667, 0xbb67ae85, 0x3c6ef372, 0xa54ff53a, 0x510e527f, 0x9b05688c, 0x1f83d9ab, 0x5be0cd19⟩

def State.words (s : State) : List UInt32 :=
  [s.a, s.b, s.c, s.d, s.e, s.f, s.g, s.h]

def State.add (s t : State) : State :=
  ⟨s.a + t.a, s.b + t.b, s.c + t.c, s.d + t.d, s.e + t.e, s.f + t.f, s.g + t.g, s.h + t.h⟩

/-- The bits moved to the right, those that fall out coming in again from the left. The amount is
between 1 and 31. -/
def rotate (word : UInt32) (amount : UInt32) : UInt32 :=
  (word >>> amount) ||| (word <<< (32 - amount))

/-- One round with a word of the schedule and its constant. -/
def State.round (s : State) (constant word : UInt32) : State :=
  let mixedE := rotate s.e 6 ^^^ rotate s.e 11 ^^^ rotate s.e 25
  let choice := (s.e &&& s.f) ^^^ (~~~ s.e &&& s.g)
  let first := s.h + mixedE + choice + constant + word
  let mixedA := rotate s.a 2 ^^^ rotate s.a 13 ^^^ rotate s.a 22
  let majority := (s.a &&& s.b) ^^^ (s.a &&& s.c) ^^^ (s.b &&& s.c)
  ⟨first + mixedA + majority, s.a, s.b, s.c, s.d + first, s.e, s.f, s.g⟩

/-- The word that follows a schedule, whose words are given from the latest back. -/
def nextWord (latest : List UInt32) : UInt32 :=
  let two := latest.getD 1 0
  let fifteen := latest.getD 14 0
  (rotate two 17 ^^^ rotate two 19 ^^^ (two >>> 10)) + latest.getD 6 0 +
    (rotate fifteen 7 ^^^ rotate fifteen 18 ^^^ (fifteen >>> 3)) + latest.getD 15 0

/-- A schedule, from its latest word back, with `count` words more. -/
def extend : Nat → List UInt32 → List UInt32
  | 0, latest => latest
  | count + 1, latest => extend count (nextWord latest :: latest)

/-- The 64 words that the sixteen words of a block are stretched to. -/
def schedule (block : List UInt32) : List UInt32 :=
  (extend 48 block.reverse).reverse

def State.absorb (s : State) (block : List UInt32) : State :=
  s.add ((roundConstants.zip (schedule block)).foldl (fun t entry => t.round entry.1 entry.2) s)

/-- The bytes of a number, `count` of them, the highest first. -/
def bigEndian : Nat → Nat → List UInt8
  | 0, _ => []
  | count + 1, n => bigEndian count (n / 256) ++ [UInt8.ofNat (n % 256)]

/-- The bytes with a mark after the last one, filled up with zeros to the next whole block that
ends with the number of bits. -/
def fill (bytes : List UInt8) : List UInt8 :=
  bytes ++ 0x80 :: List.replicate ((119 - bytes.length % 64) % 64) 0 ++
    bigEndian 8 (8 * bytes.length)

/-- The words of bytes, four bytes to a word, the highest first. -/
def words : List UInt8 → List UInt32
  | a :: b :: c :: d :: rest =>
    ((a.toUInt32 <<< 24) ||| (b.toUInt32 <<< 16) ||| (c.toUInt32 <<< 8) ||| d.toUInt32) ::
      words rest
  | _ => []

def absorbAll (s : State) (blocks : Nat) (rest : List UInt32) : State :=
  match blocks with
  | 0 => s
  | blocks + 1 => absorbAll (s.absorb (rest.take 16)) blocks (rest.drop 16)

def sha256 (bytes : List UInt8) : List UInt32 :=
  let words := words (fill bytes)
  (absorbAll .initial (words.length / 16) words).words

def hex (word : UInt32) : List Char :=
  (bigEndian 4 word.toNat).flatMap fun byte =>
    [Nat.digitChar (byte.toNat / 16), Nat.digitChar (byte.toNat % 16)]

def ofText (text : String) : String :=
  String.ofList ((sha256 text.toUTF8.toList).flatMap hex)

end Sharding.Digest
