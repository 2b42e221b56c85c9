import CardLedger.Value.Json.Printer

/-!
# SHA-256

The digest of a list of bytes, in 32-bit words. The message is padded to whole blocks of 64 bytes;
each block is expanded to 64 words and run through 64 rounds on eight chaining words.
-/

namespace CardLedger.Digest

/-- The round constants. -/
def roundConstants : List UInt32 := [
  0x428a2f98, 0x71374491, 0xb5c0fbcf, 0xe9b5dba5, 0x3956c25b, 0x59f111f1, 0x923f82a4, 0xab1c5ed5,
  0xd807aa98, 0x12835b01, 0x243185be, 0x550c7dc3, 0x72be5d74, 0x80deb1fe, 0x9bdc06a7, 0xc19bf174,
  0xe49b69c1, 0xefbe4786, 0x0fc19dc6, 0x240ca1cc, 0x2de92c6f, 0x4a7484aa, 0x5cb0a9dc, 0x76f988da,
  0x983e5152, 0xa831c66d, 0xb00327c8, 0xbf597fc7, 0xc6e00bf3, 0xd5a79147, 0x06ca6351, 0x14292967,
  0x27b70a85, 0x2e1b2138, 0x4d2c6dfc, 0x53380d13, 0x650a7354, 0x766a0abb, 0x81c2c92e, 0x92722c85,
  0xa2bfe8a1, 0xa81a664b, 0xc24b8b70, 0xc76c51a3, 0xd192e819, 0xd6990624, 0xf40e3585, 0x106aa070,
  0x19a4c116, 0x1e376c08, 0x2748774c, 0x34b0bcb5, 0x391c0cb3, 0x4ed8aa4a, 0x5b9cca4f, 0x682e6ff3,
  0x748f82ee, 0x78a5636f, 0x84c87814, 0x8cc70208, 0x90befffa, 0xa4506ceb, 0xbef9a3f7, 0xc67178f2]

/-- The eight chaining words. -/
structure Chain where
  a : UInt32
  b : UInt32
  c : UInt32
  d : UInt32
  e : UInt32
  f : UInt32
  g : UInt32
  h : UInt32

/-- The chaining words before the first block. -/
def Chain.start : Chain :=
  ⟨0x6a09e667, 0xbb67ae85, 0x3c6ef372, 0xa54ff53a, 0x510e527f, 0x9b05688c, 0x1f83d9ab, 0x5be0cd19⟩

/-- The word turned right by some bits. -/
def rotate (x : UInt32) (n : UInt32) : UInt32 :=
  (x >>> n) ||| (x <<< (32 - n))

/-- One round, with the sum of its constant and its message word. -/
def Chain.round (s : Chain) (input : UInt32) : Chain :=
  let choice := (s.e &&& s.f) ^^^ ((s.e ^^^ 0xffffffff) &&& s.g)
  let majority := (s.a &&& s.b) ^^^ (s.a &&& s.c) ^^^ (s.b &&& s.c)
  let upper := rotate s.e 6 ^^^ rotate s.e 11 ^^^ rotate s.e 25
  let lower := rotate s.a 2 ^^^ rotate s.a 13 ^^^ rotate s.a 22
  let mixed := s.h + upper + choice + input
  ⟨mixed + lower + majority, s.a, s.b, s.c, s.d + mixed, s.e, s.f, s.g⟩

/-- Word by word addition of the chaining words. -/
def Chain.add (s t : Chain) : Chain :=
  ⟨s.a + t.a, s.b + t.b, s.c + t.c, s.d + t.d, s.e + t.e, s.f + t.f, s.g + t.g, s.h + t.h⟩

/-- The next word of the message schedule; the words so far come the latest first. -/
def nextWord (words : List UInt32) : UInt32 :=
  let word := fun back => words.getD (back - 1) 0
  let small0 := rotate (word 15) 7 ^^^ rotate (word 15) 18 ^^^ (word 15 >>> 3)
  let small1 := rotate (word 2) 17 ^^^ rotate (word 2) 19 ^^^ (word 2 >>> 10)
  word 16 + small0 + word 7 + small1

/-- Add so many words to the message schedule. -/
def extend : Nat → List UInt32 → List UInt32
  | 0, words => words
  | count + 1, words => extend count (nextWord words :: words)

/-- The word of four bytes, the highest first. -/
def wordOf (bytes : List UInt8) : UInt32 :=
  bytes.foldl (fun word byte => (word <<< 8) ||| byte.toUInt32) 0

/-- Cut a list into pieces of a length, at most `fuel` of them. -/
def pieces {α : Type} (length : Nat) : Nat → List α → List (List α)
  | 0, _ => []
  | _ + 1, [] => []
  | fuel + 1, xs => xs.take length :: pieces length fuel (xs.drop length)

/-- Run one block of 64 bytes. -/
def Chain.absorb (s : Chain) (block : List UInt8) : Chain :=
  let words := (extend 48 ((pieces 4 16 block).map wordOf).reverse).reverse
  s.add ((List.zipWith (· + ·) roundConstants words).foldl Chain.round s)

/-- The bytes of a number, the highest first, in so many bytes. -/
def bigEndian (width n : Nat) : List UInt8 :=
  (List.range width).map fun i => UInt8.ofNat (n / Nat.pow 256 (width - 1 - i))

/-- A message with its end mark, zeros up to a whole block, and its length in bits. -/
def padMessage (bytes : List UInt8) : List UInt8 :=
  let gap := (119 - bytes.length % 64) % 64
  bytes ++ 0x80 :: List.replicate gap 0 ++ bigEndian 8 (8 * bytes.length)

/-- The digest of a message, in 32 bytes. -/
def sha256 (bytes : List UInt8) : List UInt8 :=
  let message := padMessage bytes
  let s := (pieces 64 (message.length / 64) message).foldl Chain.absorb Chain.start
  [s.a, s.b, s.c, s.d, s.e, s.f, s.g, s.h].flatMap fun word => bigEndian 4 word.toNat

/-- Bytes as lower-case hexadecimal digits, two for each. -/
def hex (bytes : List UInt8) : String :=
  String.ofList (bytes.flatMap fun byte =>
    [Value.hexDigit (byte.toNat / 16), Value.hexDigit (byte.toNat % 16)])

/-- The digest of the UTF-8 bytes of a text, in hexadecimal digits. -/
def ofText (text : String) : String :=
  hex (sha256 text.toUTF8.toList)

end CardLedger.Digest
