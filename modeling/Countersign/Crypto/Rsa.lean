import Countersign.Crypto.Digest

/-!
# Signatures by powers modulo a product of primes

A signature is a number whose power modulo the public modulus is a padded digest of the message.
There are two paddings, a plain one and one with random salt.

* `Rsa.PublicKey` — modulus and exponent, with `PublicKey.ofOctets?` for those that are accepted;
* `Rsa.verifyPlain`, `Rsa.verifySalted` — check a signature.
-/

namespace Countersign
namespace Rsa

structure PublicKey where
  modulus : Nat
  exponent : Nat

namespace PublicKey

/-- A number without leading zero octets. -/
def number? (bs : Bytes) : Option Nat :=
  match bs with
  | [] => none
  | b :: _ => if b == 0 then none else some (Octets.toNat bs)

def size (k : PublicKey) : Nat := (Modular.bitLength k.modulus + 7) / 8

/-- The key of a modulus of 2048 to 8192 bits, counted in whole octets, and an exponent of at most
33 bits; both are odd. -/
def ofOctets? (modulus exponent : Bytes) : Option PublicKey := do
  let n ← number? modulus
  let e ← number? exponent
  if 256 ≤ modulus.length && Modular.bitLength n ≤ 8192 && n % 2 == 1 && 3 ≤ e &&
      e < Nat.pow 2 33 && e % 2 == 1 then some ⟨n, e⟩
  else none

end PublicKey

/-- What the signature encodes, in as many octets as the modulus has. -/
def opened? (k : PublicKey) (signature : Bytes) : Option Bytes :=
  let s := Octets.toNat signature
  if signature.length == k.size && s < k.modulus then
    some (Octets.ofNat k.size (Modular.power k.modulus s k.exponent))
  else none

/-! ## The plain padding -/

def label (d : Digest) : Bytes :=
  let kind : UInt8 := if d.size == 32 then 1 else if d.size == 48 then 2 else 3
  [0x30, UInt8.ofNat (17 + d.size), 0x30, 0x0d, 0x06, 0x09, 0x60, 0x86, 0x48, 0x01, 0x65, 0x03, 0x04,
    0x02, kind, 0x05, 0x00, 0x04, UInt8.ofNat d.size]

def padded (d : Digest) (size : Nat) (message : Bytes) : Bytes :=
  let tail := label d ++ d.hash message
  [0, 1] ++ List.replicate (size - tail.length - 3) 0xff ++ 0 :: tail

/-- Whether a signature with the plain padding belongs to a message. -/
def verifyPlain (d : Digest) (k : PublicKey) (message signature : Bytes) : Bool :=
  opened? k signature == some (padded d k.size message)

/-! ## The salted padding -/

/-- Octets drawn from a seed. -/
def stretch (d : Digest) (seed : Bytes) (count : Nat) : Bytes :=
  ((List.range ((count + d.size - 1) / d.size)).flatMap fun i =>
    d.hash (seed ++ Octets.ofNat 4 i)).take count

/-- Whether a salted encoding of some bits belongs to a message; the salt is as long as the
digest. -/
def checkSalted (d : Digest) (bits : Nat) (message encoded : Bytes) : Bool :=
  let size := (bits + 7) / 8
  if size < 2 * d.size + 2 then false
  else
    let masked := encoded.take (size - d.size - 1)
    let seed := (encoded.drop (size - d.size - 1)).take d.size
    let free := 8 * size - bits
    let plain := List.zipWith (· ^^^ ·) masked (stretch d seed masked.length)
    -- the bits in front that the modulus does not fill do not count
    let block := match plain with
      | b :: bs => UInt8.ofNat (b.toNat % Nat.pow 2 (8 - free)) :: bs
      | [] => []
    let salt := block.drop (block.length - d.size)
    encoded.getLast? == some 0xbc && (masked.headD 0).toNat < Nat.pow 2 (8 - free) &&
      block.take (block.length - d.size) == List.replicate (block.length - d.size - 1) 0 ++ [1] &&
      d.hash (List.replicate 8 0 ++ d.hash message ++ salt) == seed

/-- Whether a signature with the salted padding belongs to a message. -/
def verifySalted (d : Digest) (k : PublicKey) (message signature : Bytes) : Bool :=
  let bits := Modular.bitLength k.modulus - 1
  match opened? k signature with
  | none => false
  | some whole =>
    let size := (bits + 7) / 8
    whole.take (whole.length - size) == List.replicate (whole.length - size) 0 &&
      checkSalted d bits message (whole.drop (whole.length - size))

end Rsa
end Countersign
