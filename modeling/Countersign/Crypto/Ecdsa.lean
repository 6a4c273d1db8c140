import Countersign.Crypto.Curve
import Countersign.Crypto.Digest

/-!
# Signatures on elliptic curves

A signature is a pair of numbers, written with a fixed number of octets each.  The secret number
that each signature needs is derived from the key and the message, so one number is never used for two
messages.

* `Ecdsa.sign` — signs a message;
* `Ecdsa.verify` — checks a signature;
* `Ecdsa.publicPoint?` — the public key that belongs to a private key.
-/

namespace Countersign
namespace Ecdsa

/-- The number that stands for a message: as many leading bits of its digest as the order has. -/
def messageNumber (c : Curve) (d : Digest) (message : Bytes) : Nat :=
  let excess := 8 * d.size - Modular.bitLength c.order
  Octets.toNat (d.hash message) >>> excess

/-- The public key of a private key. -/
def publicPoint? (c : Curve) (secret : Nat) : Option (Nat × Nat) :=
  c.coordinates? (c.scale secret c.base)

/-! ## Verification -/

def numbers? (c : Curve) (signature : Bytes) : Option (Nat × Nat) :=
  if signature.length != 2 * c.size then none
  else
    let r := Octets.toNat (signature.take c.size)
    let s := Octets.toNat (signature.drop c.size)
    if 0 < r && r < c.order && 0 < s && s < c.order then some (r, s) else none

/-- Whether the numbers of a signature fit a message. -/
def fits (c : Curve) (d : Digest) (key : Nat × Nat) (message : Bytes) (r s : Nat) : Bool :=
  let inverse := Modular.inverse c.order s
  let u := messageNumber c d message * inverse % c.order
  let v := r * inverse % c.order
  let sum := c.add (c.scale u c.base) (c.scale v (Point.ofCoordinates key.1 key.2))
  match c.coordinates? sum with
  | some (x, _) => x % c.order == r
  | none => false

/-- Whether a signature belongs to a message under a public key. -/
def verify (c : Curve) (d : Digest) (key : Nat × Nat) (message signature : Bytes) : Bool :=
  match numbers? c signature with
  | some (r, s) => c.contains key.1 key.2 && fits c d key message r s
  | none => false

/-! ## Signing -/

/-- The state from which secret numbers are drawn. -/
structure Source where
  secret : Bytes
  value : Bytes

/-- Stirs octets into the state. -/
def Source.stir (d : Digest) (s : Source) (mark : UInt8) (seed : Bytes) : Source :=
  let secret := d.authenticate s.secret (s.value ++ mark :: seed)
  ⟨secret, d.authenticate secret s.value⟩

def Source.start (c : Curve) (d : Digest) (key message : Nat) : Source :=
  let seed := Octets.ofNat c.size key ++ Octets.ofNat c.size (message % c.order)
  let blank : Source := ⟨List.replicate d.size 0, List.replicate d.size 1⟩
  (blank.stir d 0 seed).stir d 1 seed

/-- The signature with a given secret number, if the number is good. -/
def signWith? (c : Curve) (key message k : Nat) : Option (Nat × Nat) :=
  if k == 0 || k ≥ c.order then none
  else
    match c.coordinates? (c.scale k c.base) with
    | none => none
    | some (x, _) =>
      let r := x % c.order
      let s := Modular.inverse c.order k * (message + r * key) % c.order
      if r == 0 || s == 0 then none else some (r, s)

/-- Draws secret numbers until one is good; in practice it is the first. -/
def signFrom (c : Curve) (d : Digest) (key message : Nat) : Nat → Source → Nat × Nat
  | 0, _ => (0, 0)
  | tries + 1, s =>
    let value := d.authenticate s.secret s.value
    match signWith? c key message (Octets.toNat (value.take c.size)) with
    | some signature => signature
    | none => signFrom c d key message tries (Source.stir d ⟨s.secret, value⟩ 0 [])

def sign (c : Curve) (d : Digest) (key : Nat) (message : Bytes) : Bytes :=
  let number := messageNumber c d message
  let (r, s) := signFrom c d key number 64 (Source.start c d key number)
  Octets.ofNat c.size r ++ Octets.ofNat c.size s

end Ecdsa
end Countersign
