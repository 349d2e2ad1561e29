/-!
# The digest SHA-256

* `Sha256.digest` is the digest of bytes: the message is filled up to whole blocks of 64 bytes, and
  each block changes a state of eight words.
-/

namespace Leasehold.Sha256

/-- The constants of the 64 rounds. -/
def constants : List UInt32 := [
  0x428a2f98, 0x71374491, 0xb5c0fbcf, 0xe9b5dba5, 0x3956c25b, 0x59f111f1, 0x923f82a4, 0xab1c5ed5,
  0xd807aa98, 0x12835b01, 0x243185be, 0x550c7dc3, 0x72be5d74, 0x80deb1fe, 0x9bdc06a7, 0xc19bf174,
  0xe49b69c1, 0xefbe4786, 0x0fc19dc6, 0x240ca1cc, 0x2de92c6f, 0x4a7484aa, 0x5cb0a9dc, 0x76f988da,
  0x983e5152, 0xa831c66d, 0xb00327c8, 0xbf597fc7, 0xc6e00bf3, 0xd5a79147, 0x06ca6351, 0x14292967,
  0x27b70a85, 0x2e1b2138, 0x4d2c6dfc, 0x53380d13, 0x650a7354, 0x766a0abb, 0x81c2c92e, 0x92722c85,
  0xa2bfe8a1, 0xa81a664b, 0xc24b8b70, 0xc76c51a3, 0xd192e819, 0xd6990624, 0xf40e3585, 0x106aa070,
  0x19a4c116, 0x1e376c08, 0x2748774c, 0x34b0bcb5, 0x391c0cb3, 0x4ed8aa4a, 0x5b9cca4f, 0x682e6ff3,
  0x748f82ee, 0x78a5636f, 0x84c87814, 0x8cc70208, 0x90befffa, 0xa4506ceb, 0xbef9a3f7, 0xc67178f2]

/-- The state of eight words. -/
structure State where
  a : UInt32
  b : UInt32
  c : UInt32
  d : UInt32
  e : UInt32
  f : UInt32
  g : UInt32
  h : UInt32

namespace State

/-- The state before the first block. -/
def initial : State :=
  ⟨0x6a09e667, 0xbb67ae85, 0x3c6ef372, 0xa54ff53a, 0x510e527f, 0x9b05688c, 0x1f83d9ab, 0x5be0cd19⟩

/-- The words of two states added up. -/
def add (s t : State) : State :=
  ⟨s.a + t.a, s.b + t.b, s.c + t.c, s.d + t.d, s.e + t.e, s.f + t.f, s.g + t.g, s.h + t.h⟩

/-- The words of a state. -/
def words (s : State) : List UInt32 := [s.a, s.b, s.c, s.d, s.e, s.f, s.g, s.h]

end State

/-- A word turned to the right. -/
def turn (x n : UInt32) : UInt32 := (x >>> n) ||| (x <<< (32 - n))

/-- One round with its constant and word of the message. -/
def round (s : State) (constant word : UInt32) : State :=
  let spread := turn s.e 6 ^^^ turn s.e 11 ^^^ turn s.e 25
  let choice := (s.e &&& s.f) ^^^ ((~~~ s.e) &&& s.g)
  let first := s.h + spread + choice + constant + word
  let mixed := turn s.a 2 ^^^ turn s.a 13 ^^^ turn s.a 22
  let majority := (s.a &&& s.b) ^^^ (s.a &&& s.c) ^^^ (s.b &&& s.c)
  ⟨first + mixed + majority, s.a, s.b, s.c, s.d + first, s.e, s.f, s.g⟩

/-- The word that follows those of `past`, last first. -/
def nextWord (past : List UInt32) : UInt32 :=
  let near := past.getD 1 0
  let far := past.getD 14 0
  (turn near 17 ^^^ turn near 19 ^^^ (near >>> 10)) + past.getD 6 0 +
    (turn far 7 ^^^ turn far 18 ^^^ (far >>> 3)) + past.getD 15 0

/-- Adds `n` words behind those of `past`, last first. -/
def extend : Nat → List UInt32 → List UInt32
  | 0, past => past
  | n + 1, past => extend n (nextWord past :: past)

/-- The word that four bytes write. -/
def wordOf (bytes : List UInt8) : UInt32 :=
  bytes.foldl (fun n b => n * 256 + b.toUInt32) 0

/-- The 64 words of a block of 64 bytes. -/
def schedule (block : List UInt8) : List UInt32 :=
  let words := (List.range 16).map fun i => wordOf ((block.drop (4 * i)).take 4)
  (extend 48 words.reverse).reverse

/-- The state after a block. -/
def compress (s : State) (block : List UInt8) : State :=
  s.add ((constants.zip (schedule block)).foldl (fun s x => round s x.1 x.2) s)

/-- A number in `n` bytes, the most significant first. -/
def bigEndian : Nat → Nat → List UInt8
  | 0, _ => []
  | n + 1, value => bigEndian n (value / 256) ++ [UInt8.ofNat (value % 256)]

/-- The length of a block in bytes. -/
def blockLength : Nat := 64

/-- A message filled up to whole blocks, the last eight bytes being its length in bits. -/
def padded (message : List UInt8) : List UInt8 :=
  let used := (message.length + 9) % blockLength
  let zeros := if used = 0 then 0 else blockLength - used
  message ++ 0x80 :: List.replicate zeros 0 ++ bigEndian 8 (8 * message.length)

/-- The state after `n` blocks. -/
def compressAll : Nat → State → List UInt8 → State
  | 0, s, _ => s
  | n + 1, s, bytes => compressAll n (compress s (bytes.take blockLength)) (bytes.drop blockLength)

/-- The digest of a message. -/
def digest (message : List UInt8) : List UInt8 :=
  let bytes := padded message
  (compressAll (bytes.length / blockLength) .initial bytes).words.flatMap fun w =>
    bigEndian 4 w.toNat

end Leasehold.Sha256
