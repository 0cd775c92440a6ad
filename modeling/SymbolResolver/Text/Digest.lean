import SymbolResolver.Text.Hex

/-!
# SHA-256

The digest of a byte sequence, on 32-bit words. A file is identified by the digest of its path.
-/

namespace SymbolResolver

namespace Text

namespace Digest

/-- The round constants: the first 32 bits of the fractional parts of the cube roots of the first 64
primes. -/
def roundConstants : List UInt32 :=
  [0x428a2f98, 0x71374491, 0xb5c0fbcf, 0xe9b5dba5, 0x3956c25b, 0x59f111f1, 0x923f82a4, 0xab1c5ed5,
   0xd807aa98, 0x12835b01, 0x243185be, 0x550c7dc3, 0x72be5d74, 0x80deb1fe, 0x9bdc06a7, 0xc19bf174,
   0xe49b69c1, 0xefbe4786, 0x0fc19dc6, 0x240ca1cc, 0x2de92c6f, 0x4a7484aa, 0x5cb0a9dc, 0x76f988da,
   0x983e5152, 0xa831c66d, 0xb00327c8, 0xbf597fc7, 0xc6e00bf3, 0xd5a79147, 0x06ca6351, 0x14292967,
   0x27b70a85, 0x2e1b2138, 0x4d2c6dfc, 0x53380d13, 0x650a7354, 0x766a0abb, 0x81c2c92e, 0x92722c85,
   0xa2bfe8a1, 0xa81a664b, 0xc24b8b70, 0xc76c51a3, 0xd192e819, 0xd6990624, 0xf40e3585, 0x106aa070,
   0x19a4c116, 0x1e376c08, 0x2748774c, 0x34b0bcb5, 0x391c0cb3, 0x4ed8aa4a, 0x5b9cca4f, 0x682e6ff3,
   0x748f82ee, 0x78a5636f, 0x84c87814, 0x8cc70208, 0x90befffa, 0xa4506ceb, 0xbef9a3f7, 0xc67178f2]

/-- The eight working words. -/
structure Words where
  /-- First word. -/
  a : UInt32
  /-- Second word. -/
  b : UInt32
  /-- Third word. -/
  c : UInt32
  /-- Fourth word. -/
  d : UInt32
  /-- Fifth word. -/
  e : UInt32
  /-- Sixth word. -/
  f : UInt32
  /-- Seventh word. -/
  g : UInt32
  /-- Eighth word. -/
  h : UInt32
deriving DecidableEq, Repr

/-- The first 32 bits of the fractional parts of the square roots of the first eight primes. -/
def initialWords : Words :=
  ⟨0x6a09e667, 0xbb67ae85, 0x3c6ef372, 0xa54ff53a, 0x510e527f, 0x9b05688c, 0x1f83d9ab, 0x5be0cd19⟩

/-- Rotation to the right, for distances between 1 and 31. -/
def rotateRight (word distance : UInt32) : UInt32 :=
  (word >>> distance) ||| (word <<< (32 - distance))

/-- One round, with the round's constant and message word already added up. -/
def round (words : Words) (input : UInt32) : Words :=
  let mixE := rotateRight words.e 6 ^^^ rotateRight words.e 11 ^^^ rotateRight words.e 25
  let choice := (words.e &&& words.f) ^^^ ((words.e ^^^ 0xffffffff) &&& words.g)
  let first := words.h + mixE + choice + input
  let mixA := rotateRight words.a 2 ^^^ rotateRight words.a 13 ^^^ rotateRight words.a 22
  let majority := (words.a &&& words.b) ^^^ (words.a &&& words.c) ^^^ (words.b &&& words.c)
  ⟨first + mixA + majority, words.a, words.b, words.c, words.d + first, words.e, words.f, words.g⟩

/-- The next schedule word, from the last sixteen with the newest first. -/
def nextScheduleWord (recent : List UInt32) : UInt32 :=
  let word (age : Nat) : UInt32 := recent.getD age 0
  let older := word 14
  let newer := word 1
  let mixOlder := rotateRight older 7 ^^^ rotateRight older 18 ^^^ (older >>> 3)
  let mixNewer := rotateRight newer 17 ^^^ rotateRight newer 19 ^^^ (newer >>> 10)
  word 15 + mixOlder + word 6 + mixNewer

/-- Extends a reversed schedule by a number of words. -/
def extendSchedule : Nat → List UInt32 → List UInt32
  | 0, reversed => reversed
  | count + 1, reversed => extendSchedule count (nextScheduleWord reversed :: reversed)

/-- The 64 schedule words of a block of sixteen. -/
def schedule (block : List UInt32) : List UInt32 :=
  (extendSchedule 48 block.reverse).reverse

/-- Mixes one block into the working words. -/
def compress (words : Words) (block : List UInt32) : Words :=
  let inputs := (schedule block).zipWith (· + ·) roundConstants
  let mixed := inputs.foldl round words
  ⟨words.a + mixed.a, words.b + mixed.b, words.c + mixed.c, words.d + mixed.d,
   words.e + mixed.e, words.f + mixed.f, words.g + mixed.g, words.h + mixed.h⟩

/-- The bytes of a number, most significant first. -/
def bigEndian (count number : Nat) : List Nat :=
  (List.range count).reverse.map fun position => (number >>> (8 * position)) % 256

/-- A message with its closing bit, its zeros and its length in bits. -/
def pad (bytes : List Nat) : List Nat :=
  let zeros := (119 - bytes.length % 64) % 64
  bytes ++ 0x80 :: List.replicate zeros 0 ++ bigEndian 8 (8 * bytes.length)

/-- Groups of a fixed size, by fuel for the number of groups. -/
def groups {α : Type} (size : Nat) : Nat → List α → List (List α)
  | 0, _ => []
  | count + 1, items => items.take size :: groups size count (items.drop size)

/-- The word that four bytes spell. -/
def wordOfBytes (bytes : List Nat) : UInt32 :=
  UInt32.ofNat (bytes.foldl (fun number byte => 256 * number + byte) 0)

/-- The digest as working words. -/
def digest (bytes : List Nat) : Words :=
  let padded := pad bytes
  let words := (groups 4 (padded.length / 4) padded).map wordOfBytes
  (groups 16 (words.length / 16) words).foldl compress initialWords

/-- The 64 hexadecimal digits of a digest. -/
def Words.hex (words : Words) : List Char :=
  [words.a, words.b, words.c, words.d, words.e, words.f, words.g, words.h].flatMap fun word => fixedHexDigits 8 word.toNat

end Digest

/-- The hexadecimal digest of the UTF-8 bytes of a text. -/
def sha256 (text : String) : String :=
  String.ofList (Digest.digest (text.toUTF8.toList.map UInt8.toNat)).hex

end Text

end SymbolResolver
