import Countersign.Crypto.Modular

/-!
# Digests

The three digests differ only in the width of a word and in their constants.  A message is padded
to whole blocks; each block is spread over the rounds and mixed into a state of eight words.

* `Digest` — the parameters of a digest, with `Digest.sha256`, `sha384`, `sha512`;
* `Digest.hash` — the digest of a message;
* `Digest.authenticate` — the digest of a message under a secret.
-/

namespace Countersign

structure Digest where
  /-- Bits in a word. -/
  width : Nat
  /-- One constant per round. -/
  constants : List Nat
  /-- The state before the first block. -/
  start : List Nat
  /-- Octets of the digest. -/
  size : Nat
  /-- Rotations that mix the first word of the state. -/
  mixFirst : Nat × Nat × Nat
  /-- Rotations that mix the fifth word of the state. -/
  mixFifth : Nat × Nat × Nat
  /-- Two rotations and a shift that spread an early word of a block. -/
  spreadEarly : Nat × Nat × Nat
  /-- Two rotations and a shift that spread a late word of a block. -/
  spreadLate : Nat × Nat × Nat

namespace Digest

/-! ## Words -/

/-- A word rotated to the right. -/
def rotate (width x n : Nat) : Nat := (x >>> n ||| x <<< (width - n)) % Nat.pow 2 width

/-- Three rotations of a word, combined. -/
def mix (width : Nat) (r : Nat × Nat × Nat) (x : Nat) : Nat :=
  rotate width x r.1 ^^^ rotate width x r.2.1 ^^^ rotate width x r.2.2

/-- Two rotations and a shift of a word, combined. -/
def spread (width : Nat) (r : Nat × Nat × Nat) (x : Nat) : Nat :=
  rotate width x r.1 ^^^ rotate width x r.2.1 ^^^ x >>> r.2.2

/-- Cuts octets into numbers of `size` octets. -/
def wordsOf (size : Nat) (bs : Bytes) : Nat → List Nat
  | 0 => []
  | count + 1 => Octets.toNat (bs.take size) :: wordsOf size (bs.drop size) count

/-! ## Blocks -/

/-- The state of eight words, the word of the round and its constant give the next state. -/
def round (d : Digest) (constant word : Nat) : List Nat → List Nat
  | [a, b, c, e, f, g, h, i] =>
    let choice := (f &&& g) ^^^ ((Nat.pow 2 d.width - 1 - f) &&& h)
    let majority := (a &&& b) ^^^ (a &&& c) ^^^ (b &&& c)
    let first := i + mix d.width d.mixFifth f + choice + constant + word
    let second := mix d.width d.mixFirst a + majority
    [(first + second) % Nat.pow 2 d.width, a, b, c, (e + first) % Nat.pow 2 d.width, f, g, h]
  | state => state

/-- The next word of a schedule, from the last sixteen. -/
def nextWord (d : Digest) (window : List Nat) : Nat :=
  (spread d.width d.spreadLate (window.getD 14 0) + window.getD 9 0 +
    spread d.width d.spreadEarly (window.getD 1 0) + window.getD 0 0) % Nat.pow 2 d.width

/-- Runs the rounds; the window holds the word of the round and the fifteen after it. -/
def rounds (d : Digest) : List Nat → List Nat → List Nat → List Nat
  | [], _, state => state
  | constant :: constants, window, state =>
    d.rounds constants (window.drop 1 ++ [d.nextWord window])
      (d.round constant (window.headD 0) state)

/-- Mixes a block of sixteen words into a state. -/
def compress (d : Digest) (state block : List Nat) : List Nat :=
  List.zipWith (fun a b => (a + b) % Nat.pow 2 d.width) state (d.rounds d.constants block state)

def wordSize (d : Digest) : Nat := d.width / 8

def blockSize (d : Digest) : Nat := 16 * d.wordSize

/-- A message with an end mark, zeros, and its length in bits in two words. -/
def pad (d : Digest) (message : Bytes) : Bytes :=
  let used := message.length + 1 + 2 * d.wordSize
  let zeros := (d.blockSize - used % d.blockSize) % d.blockSize
  message ++ 0x80 :: List.replicate zeros 0 ++ Octets.ofNat (2 * d.wordSize) (8 * message.length)

/-- Mixes some blocks into a state. -/
def absorb (d : Digest) : Nat → Bytes → List Nat → List Nat
  | 0, _, state => state
  | count + 1, bs, state =>
    d.absorb count (bs.drop d.blockSize) (d.compress state (wordsOf d.wordSize bs 16))

def hash (d : Digest) (message : Bytes) : Bytes :=
  let padded := d.pad message
  let state := d.absorb (padded.length / d.blockSize) padded d.start
  (state.flatMap (Octets.ofNat d.wordSize)).take d.size

/-! ## Secrets -/

/-- A secret as one block: a long one is replaced by its digest. -/
def secretBlock (d : Digest) (secret : Bytes) : Bytes :=
  let s := if d.blockSize < secret.length then d.hash secret else secret
  s ++ List.replicate (d.blockSize - s.length) 0

def authenticate (d : Digest) (secret message : Bytes) : Bytes :=
  let block := d.secretBlock secret
  d.hash (block.map (· ^^^ 0x5c) ++ d.hash (block.map (· ^^^ 0x36) ++ message))

/-! ## The three digests -/

/-- Round constants: the first 64 bits of the fractions of cube roots of the first primes. -/
def roots : List Nat :=
  [
    0x428a2f98d728ae22, 0x7137449123ef65cd, 0xb5c0fbcfec4d3b2f, 0xe9b5dba58189dbbc,
    0x3956c25bf348b538, 0x59f111f1b605d019, 0x923f82a4af194f9b, 0xab1c5ed5da6d8118,
    0xd807aa98a3030242, 0x12835b0145706fbe, 0x243185be4ee4b28c, 0x550c7dc3d5ffb4e2,
    0x72be5d74f27b896f, 0x80deb1fe3b1696b1, 0x9bdc06a725c71235, 0xc19bf174cf692694,
    0xe49b69c19ef14ad2, 0xefbe4786384f25e3, 0x0fc19dc68b8cd5b5, 0x240ca1cc77ac9c65,
    0x2de92c6f592b0275, 0x4a7484aa6ea6e483, 0x5cb0a9dcbd41fbd4, 0x76f988da831153b5,
    0x983e5152ee66dfab, 0xa831c66d2db43210, 0xb00327c898fb213f, 0xbf597fc7beef0ee4,
    0xc6e00bf33da88fc2, 0xd5a79147930aa725, 0x06ca6351e003826f, 0x142929670a0e6e70,
    0x27b70a8546d22ffc, 0x2e1b21385c26c926, 0x4d2c6dfc5ac42aed, 0x53380d139d95b3df,
    0x650a73548baf63de, 0x766a0abb3c77b2a8, 0x81c2c92e47edaee6, 0x92722c851482353b,
    0xa2bfe8a14cf10364, 0xa81a664bbc423001, 0xc24b8b70d0f89791, 0xc76c51a30654be30,
    0xd192e819d6ef5218, 0xd69906245565a910, 0xf40e35855771202a, 0x106aa07032bbd1b8,
    0x19a4c116b8d2d0c8, 0x1e376c085141ab53, 0x2748774cdf8eeb99, 0x34b0bcb5e19b48a8,
    0x391c0cb3c5c95a63, 0x4ed8aa4ae3418acb, 0x5b9cca4f7763e373, 0x682e6ff3d6b2b8a3,
    0x748f82ee5defb2fc, 0x78a5636f43172f60, 0x84c87814a1f0ab72, 0x8cc702081a6439ec,
    0x90befffa23631e28, 0xa4506cebde82bde9, 0xbef9a3f7b2c67915, 0xc67178f2e372532b,
    0xca273eceea26619c, 0xd186b8c721c0c207, 0xeada7dd6cde0eb1e, 0xf57d4f7fee6ed178,
    0x06f067aa72176fba, 0x0a637dc5a2c898a6, 0x113f9804bef90dae, 0x1b710b35131c471b,
    0x28db77f523047d84, 0x32caab7b40c72493, 0x3c9ebe0a15c9bebc, 0x431d67c49c100d4c,
    0x4cc5d4becb3e42b6, 0x597f299cfc657e2a, 0x5fcb6fab3ad6faec, 0x6c44198c4a475817]

def sha256 : Digest where
  width := 32
  constants := (roots.take 64).map (· >>> 32)
  start := [
    0x6a09e667, 0xbb67ae85, 0x3c6ef372, 0xa54ff53a,
    0x510e527f, 0x9b05688c, 0x1f83d9ab, 0x5be0cd19]
  size := 32
  mixFirst := (2, 13, 22)
  mixFifth := (6, 11, 25)
  spreadEarly := (7, 18, 3)
  spreadLate := (17, 19, 10)

def sha512 : Digest where
  width := 64
  constants := roots
  start := [
    0x6a09e667f3bcc908, 0xbb67ae8584caa73b, 0x3c6ef372fe94f82b, 0xa54ff53a5f1d36f1,
    0x510e527fade682d1, 0x9b05688c2b3e6c1f, 0x1f83d9abfb41bd6b, 0x5be0cd19137e2179]
  size := 64
  mixFirst := (28, 34, 39)
  mixFifth := (14, 18, 41)
  spreadEarly := (1, 8, 7)
  spreadLate := (19, 61, 6)

/-- The digest of 384 bits: the longer one with another start, cut. -/
def sha384 : Digest := { sha512 with
  start := [
    0xcbbb9d5dc1059ed8, 0x629a292a367cd507, 0x9159015a3070dd17, 0x152fecd8f70e5939,
    0x67332667ffc00b31, 0x8eb44a8768581511, 0xdb0c2e0d64f98fa7, 0x47b5481dbefa4fa4]
  size := 48 }

end Digest
end Countersign
