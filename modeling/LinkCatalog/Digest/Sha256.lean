import LinkCatalog.Text.Digits

/-!
# SHA-256

The message digest of FIPS 180-4 over bytes: the padded message is cut into blocks of 64 bytes, and
each block is mixed into a state of eight words of 32 bits.

## Main definitions

- `Sha256.padding`, `Sha256.blocks` — the message in blocks
- `Sha256.schedule` — the 64 words of a block
- `Sha256.compress` — one block mixed into the state
- `Sha256.digest` — the final state
- `Sha256.hexDigest` — its 64 hexadecimal digits
-/

namespace LinkCatalog.Sha256

/-- Eight words of 32 bits. -/
structure State where
  a : UInt32
  b : UInt32
  c : UInt32
  d : UInt32
  e : UInt32
  f : UInt32
  g : UInt32
  h : UInt32
deriving DecidableEq, Repr

/-- The words of a state in order. -/
def State.words (s : State) : List UInt32 :=
  [s.a, s.b, s.c, s.d, s.e, s.f, s.g, s.h]

/-- The state before the first block: fractions of the square roots of the first eight primes. -/
def initial : State :=
  { a := 0x6a09e667, b := 0xbb67ae85, c := 0x3c6ef372, d := 0xa54ff53a
    e := 0x510e527f, f := 0x9b05688c, g := 0x1f83d9ab, h := 0x5be0cd19 }

/-- The constants of the 64 rounds: fractions of the cube roots of the first 64 primes. -/
def roundConstants : List UInt32 :=
  [0x428a2f98, 0x71374491, 0xb5c0fbcf, 0xe9b5dba5, 0x3956c25b, 0x59f111f1, 0x923f82a4, 0xab1c5ed5,
    0xd807aa98, 0x12835b01, 0x243185be, 0x550c7dc3, 0x72be5d74, 0x80deb1fe, 0x9bdc06a7, 0xc19bf174,
    0xe49b69c1, 0xefbe4786, 0x0fc19dc6, 0x240ca1cc, 0x2de92c6f, 0x4a7484aa, 0x5cb0a9dc, 0x76f988da,
    0x983e5152, 0xa831c66d, 0xb00327c8, 0xbf597fc7, 0xc6e00bf3, 0xd5a79147, 0x06ca6351, 0x14292967,
    0x27b70a85, 0x2e1b2138, 0x4d2c6dfc, 0x53380d13, 0x650a7354, 0x766a0abb, 0x81c2c92e, 0x92722c85,
    0xa2bfe8a1, 0xa81a664b, 0xc24b8b70, 0xc76c51a3, 0xd192e819, 0xd6990624, 0xf40e3585, 0x106aa070,
    0x19a4c116, 0x1e376c08, 0x2748774c, 0x34b0bcb5, 0x391c0cb3, 0x4ed8aa4a, 0x5b9cca4f, 0x682e6ff3,
    0x748f82ee, 0x78a5636f, 0x84c87814, 0x8cc70208, 0x90befffa, 0xa4506ceb, 0xbef9a3f7, 0xc67178f2]

/-- A word rotated to the right. -/
def rotate (x : UInt32) (count : UInt32) : UInt32 :=
  (x >>> count) ||| (x <<< (32 - count))

/-- The bytes of a number, most significant first. -/
def bigEndian (width n : Nat) : List UInt8 :=
  (Digits.fixed 256 width n).map UInt8.ofNat

/-- What follows a message of the given length: a set bit, zeros up to eight bytes short of a whole
    block, and the length in bits. -/
def padding (length : Nat) : List UInt8 :=
  0x80 :: List.replicate ((119 - length % 64) % 64) 0 ++ bigEndian 8 (8 * length)

/-- A word of four bytes. -/
def wordOfBytes (bytes : List UInt8) : UInt32 :=
  UInt32.ofNat (Digits.value 256 (bytes.map UInt8.toNat))

/-- A list cut into pieces of the given width; the bound is the number of pieces. -/
def chunks (width : Nat) : (bound : Nat) → List α → List (List α)
  | 0, _ => []
  | bound + 1, items => items.take width :: chunks width bound (items.drop width)

/-- The blocks of a padded message, as sixteen words each. -/
def blocks (message : List UInt8) : List (List UInt32) :=
  let padded := message ++ padding message.length
  (chunks 64 (padded.length / 64) padded).map fun block =>
    (chunks 4 16 block).map wordOfBytes

/-- The words of a block followed by `bound` more. The window holds the last sixteen words. -/
def schedule : (bound : Nat) → (window : List UInt32) → List UInt32
  | 0, window => window
  | bound + 1, window =>
    let w0 := window.getD 0 0
    let w1 := window.getD 1 0
    let w9 := window.getD 9 0
    let w14 := window.getD 14 0
    let s0 := rotate w1 7 ^^^ rotate w1 18 ^^^ (w1 >>> 3)
    let s1 := rotate w14 17 ^^^ rotate w14 19 ^^^ (w14 >>> 10)
    w0 :: schedule bound (window.drop 1 ++ [w0 + s0 + w9 + s1])

/-- One round: a word of the schedule and the constant of the round are mixed into the state. -/
def round (s : State) (constant word : UInt32) : State :=
  let s1 := rotate s.e 6 ^^^ rotate s.e 11 ^^^ rotate s.e 25
  let choice := (s.e &&& s.f) ^^^ (~~~ s.e &&& s.g)
  let t1 := s.h + s1 + choice + constant + word
  let s0 := rotate s.a 2 ^^^ rotate s.a 13 ^^^ rotate s.a 22
  let majority := (s.a &&& s.b) ^^^ (s.a &&& s.c) ^^^ (s.b &&& s.c)
  { a := t1 + s0 + majority, b := s.a, c := s.b, d := s.c
    e := s.d + t1, f := s.e, g := s.f, h := s.g }

/-- A block mixed into the state. -/
def compress (s : State) (block : List UInt32) : State :=
  let r := (roundConstants.zip (schedule 48 block)).foldl (fun s kw => round s kw.1 kw.2) s
  { a := s.a + r.a, b := s.b + r.b, c := s.c + r.c, d := s.d + r.d
    e := s.e + r.e, f := s.f + r.f, g := s.g + r.g, h := s.h + r.h }

/-- The digest of a message. -/
def digest (message : List UInt8) : State :=
  (blocks message).foldl compress initial

/-- The digest of a message as 64 hexadecimal digits. -/
def hexDigest (message : List UInt8) : List Char :=
  (digest message).words.flatMap fun word => Digits.hex 8 word.toNat

/-- A digest always has 64 digits. -/
theorem length_hexDigest (message : List UInt8) : (hexDigest message).length = 64 := by
  simp [hexDigest, State.words]

end LinkCatalog.Sha256
