/-!
# SHA-256

The digest of a text's UTF-8 bytes. The message is padded to whole blocks of
sixteen 32-bit words; each block is stretched to sixty-four words by the
message schedule and folded into the eight chaining words. Additions are those
of `UInt32`, that is modulo 2 ^ 32.
-/

namespace IrExcerpt.Digest

/-- The eight chaining words. -/
structure Chain where
  a : UInt32
  b : UInt32
  c : UInt32
  d : UInt32
  e : UInt32
  f : UInt32
  g : UInt32
  h : UInt32
deriving DecidableEq, Repr

/-- The chaining words before the first block. -/
def Chain.initial : Chain :=
  ⟨0x6a09e667, 0xbb67ae85, 0x3c6ef372, 0xa54ff53a, 0x510e527f, 0x9b05688c, 0x1f83d9ab, 0x5be0cd19⟩

/-- One constant per round. -/
def roundConstants : List UInt32 :=
  [0x428a2f98, 0x71374491, 0xb5c0fbcf, 0xe9b5dba5, 0x3956c25b, 0x59f111f1, 0x923f82a4, 0xab1c5ed5,
   0xd807aa98, 0x12835b01, 0x243185be, 0x550c7dc3, 0x72be5d74, 0x80deb1fe, 0x9bdc06a7, 0xc19bf174,
   0xe49b69c1, 0xefbe4786, 0x0fc19dc6, 0x240ca1cc, 0x2de92c6f, 0x4a7484aa, 0x5cb0a9dc, 0x76f988da,
   0x983e5152, 0xa831c66d, 0xb00327c8, 0xbf597fc7, 0xc6e00bf3, 0xd5a79147, 0x06ca6351, 0x14292967,
   0x27b70a85, 0x2e1b2138, 0x4d2c6dfc, 0x53380d13, 0x650a7354, 0x766a0abb, 0x81c2c92e, 0x92722c85,
   0xa2bfe8a1, 0xa81a664b, 0xc24b8b70, 0xc76c51a3, 0xd192e819, 0xd6990624, 0xf40e3585, 0x106aa070,
   0x19a4c116, 0x1e376c08, 0x2748774c, 0x34b0bcb5, 0x391c0cb3, 0x4ed8aa4a, 0x5b9cca4f, 0x682e6ff3,
   0x748f82ee, 0x78a5636f, 0x84c87814, 0x8cc70208, 0x90befffa, 0xa4506ceb, 0xbef9a3f7, 0xc67178f2]

/-- Rotation to the right. -/
def rotr (x n : UInt32) : UInt32 :=
  (x >>> n) ||| (x <<< (32 - n))

/-- The next word of the schedule. Words are held newest first, so the word
sixteen places back stands at index 15. -/
def nextWord (w : List UInt32) : UInt32 :=
  let x := w.getD 14 0
  let y := w.getD 1 0
  let s0 := rotr x 7 ^^^ rotr x 18 ^^^ (x >>> 3)
  let s1 := rotr y 17 ^^^ rotr y 19 ^^^ (y >>> 10)
  w.getD 15 0 + s0 + w.getD 6 0 + s1

/-- The schedule `w` lengthened by `n` words. -/
def extend (w : List UInt32) : Nat → List UInt32
  | 0 => w
  | n + 1 => extend (nextWord w :: w) n

/-- The sixty-four words of a block's schedule. -/
def schedule (block : List UInt32) : List UInt32 :=
  (extend block.reverse 48).reverse

/-- One round, given the round's constant and word. -/
def round (s : Chain) (kw : UInt32 × UInt32) : Chain :=
  let s1 := rotr s.e 6 ^^^ rotr s.e 11 ^^^ rotr s.e 25
  let choice := (s.e &&& s.f) ^^^ (~~~s.e &&& s.g)
  let t1 := s.h + s1 + choice + kw.1 + kw.2
  let s0 := rotr s.a 2 ^^^ rotr s.a 13 ^^^ rotr s.a 22
  let majority := (s.a &&& s.b) ^^^ (s.a &&& s.c) ^^^ (s.b &&& s.c)
  ⟨t1 + (s0 + majority), s.a, s.b, s.c, s.d + t1, s.e, s.f, s.g⟩

/-- The chaining words after one block. -/
def compress (s : Chain) (block : List UInt32) : Chain :=
  let r := (roundConstants.zip (schedule block)).foldl round s
  ⟨s.a + r.a, s.b + r.b, s.c + r.c, s.d + r.d, s.e + r.e, s.f + r.f, s.g + r.g, s.h + r.h⟩

/-- A number as `n` bytes, highest first. -/
def bigEndian (n : Nat) (value : Nat) : List UInt8 :=
  (List.range n).map fun i => UInt8.ofNat (value >>> (8 * (n - 1 - i)))

/-- The message with its padding: a one bit, zeros, and the length in bits. -/
def pad (message : List UInt8) : List UInt8 :=
  let n := message.length
  message ++ [0x80] ++ List.replicate ((119 - n % 64) % 64) 0 ++ bigEndian 8 (8 * n)

/-- Bytes read as words, highest byte first; a rest shorter than a word is dropped. -/
def words : List UInt8 → List UInt32
  | p :: q :: r :: s :: rest =>
    ((p.toUInt32 <<< 24) ||| (q.toUInt32 <<< 16) ||| (r.toUInt32 <<< 8) ||| s.toUInt32) :: words rest
  | _ => []

/-- The first `n` whole blocks of sixteen words, folded into the chain. -/
def absorb : Nat → Chain → List UInt32 → Chain
  | 0, s, _ => s
  | n + 1, s, ws => absorb n (compress s (ws.take 16)) (ws.drop 16)

/-- The chaining words of a message. -/
def chain (message : List UInt8) : Chain :=
  let ws := words (pad message)
  absorb (ws.length / 16) Chain.initial ws

/-- The lower-case hexadecimal digit of a value below sixteen. -/
def hexDigit (n : Nat) : Char :=
  if n < 10 then Char.ofNat (48 + n) else Char.ofNat (87 + n)

/-- A word as eight hexadecimal digits. -/
def hexWord (w : UInt32) : List Char :=
  (List.range 8).map fun i => hexDigit ((w.toNat >>> (4 * (7 - i))) % 16)

/-- The SHA-256 digest of bytes, in lower-case hexadecimal. -/
def sha256Bytes (message : List UInt8) : String :=
  let s := chain message
  String.ofList ([s.a, s.b, s.c, s.d, s.e, s.f, s.g, s.h].flatMap hexWord)

/-- The SHA-256 digest of a text, in lower-case hexadecimal. -/
def sha256 (text : String) : String :=
  sha256Bytes text.toUTF8.toList

end IrExcerpt.Digest
