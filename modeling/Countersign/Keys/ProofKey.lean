import Countersign.Error
import Countersign.Json.Writer
import Countersign.Keys.Pem
import Countersign.Keys.Pkcs8

/-!
# Proof keys

A proof key signs proofs of possession.  Its public half is published in every proof, and its
thumbprint names it in credentials.

* `ProofAlgorithm` — the two algorithms of proofs;
* `ProofKey` — a key pair of an algorithm;
* `ProofKey.ofPkcs8`, `ProofKey.ofDocument`, `ProofKey.ofFile` — the ways to load one;
* `ProofKey.jwk`, `ProofKey.thumbprint` — the public half and its name.
-/

namespace Countersign

open Text

inductive ProofAlgorithm where
  | es256
  | es384
deriving DecidableEq, Repr, Inhabited

namespace ProofAlgorithm

def name : ProofAlgorithm → String
  | es256 => "ES256"
  | es384 => "ES384"

/-- The algorithm of a name; letters count. -/
def ofName (s : String) : Except ProofError ProofAlgorithm :=
  if s = es256.name then .ok es256
  else if s = es384.name then .ok es384
  else .error (.unsupportedAlgorithm s)

def curve : ProofAlgorithm → Curve
  | es256 => .p256
  | es384 => .p384

def digest : ProofAlgorithm → Digest
  | es256 => .sha256
  | es384 => .sha384

def curveName : ProofAlgorithm → String
  | es256 => "P-256"
  | es384 => "P-384"

theorem name_injective {a b : ProofAlgorithm} (h : a.name = b.name) : a = b := by
  cases a <;> cases b <;> first | rfl | simp [name] at h

theorem ofName_eq_ok_iff {s : String} {a : ProofAlgorithm} :
    ofName s = .ok a ↔ s = a.name := by
  unfold ofName
  constructor
  · intro h
    split at h
    · cases h; assumption
    · split at h
      · cases h; assumption
      · cases h
  · rintro rfl
    cases a <;> simp [name]

end ProofAlgorithm

/-- A key pair: a secret number and the public point that belongs to it. -/
structure ProofKey where
  algorithm : ProofAlgorithm
  secret : Nat
  x : Nat
  y : Nat
deriving DecidableEq, Repr, Inhabited

namespace ProofKey

/-- A coordinate of the public point as a text. -/
def coordinate (k : ProofKey) (n : Nat) : String :=
  Base64.encodeUrl (Octets.ofNat k.algorithm.curve.size n)

/-- The public half. -/
def jwk (k : ProofKey) : Json :=
  .ofFields [("kty", .string "EC"), ("crv", .string k.algorithm.curveName),
    ("x", .string (k.coordinate k.x)), ("y", .string (k.coordinate k.y))]

/-- The canonical form of the public half: its members in ascending order, without blanks. -/
def canonical (k : ProofKey) : String :=
  (Json.ofFields [("crv", .string k.algorithm.curveName), ("kty", .string "EC"),
    ("x", .string (k.coordinate k.x)), ("y", .string (k.coordinate k.y))]).render

/-- The name of the key: a digest of the canonical public half. -/
def thumbprint (k : ProofKey) : String :=
  Base64.encodeUrl (Digest.sha256.hash (Utf8.encode k.canonical))

/-- A form for logs that hides the secret. -/
def redacted (k : ProofKey) : String :=
  "ProofKeyPair \x7b algorithm: " ++ k.algorithm.name ++ ", thumbprint: " ++ quote k.thumbprint ++
    ", .. \x7d"

def sign (k : ProofKey) (message : Bytes) : Bytes :=
  Ecdsa.sign k.algorithm.curve k.algorithm.digest k.secret message

/-! ## Loading -/

def ofPkcs8 (a : ProofAlgorithm) (octets : Bytes) : Except ProofError ProofKey :=
  match Pkcs8.key? a.curve octets with
  | some (secret, x, y) => .ok { algorithm := a, secret, x, y }
  | none => .error (.invalidKey (.foreign a.name))

/-- The key of the first undamaged section of a key document that holds a private key. -/
def ofDocument (a : ProofAlgorithm) (document : Bytes) : Except ProofError ProofKey :=
  match (Pem.privateKeys document).filterMap id with
  | octets :: _ => ofPkcs8 a octets
  | [] => .error (.invalidKey .absent)

/-- The key of a file with a key document: a damaged section before the first key makes the file
unreadable. -/
def ofFile (a : ProofAlgorithm) (path : String) (content : Except FileFault Bytes) :
    Except ProofError ProofKey :=
  match content with
  | .error fault => .error (.unreadable path fault)
  | .ok document =>
    match Pem.privateKeys document with
    | some octets :: _ => ofPkcs8 a octets
    | none :: _ => .error (.unreadable path .malformed)
    | [] => .error (.invalidKey (.absentIn path))

/-- Octets of randomness that a fresh key needs. -/
def seedSize : Nat := 64

/-- A fresh key from random octets. -/
def ofSeed (a : ProofAlgorithm) (seed : Bytes) : ProofKey :=
  let c := a.curve
  let secret := Octets.toNat seed % (c.order - 1) + 1
  let p := (Ecdsa.publicPoint? c secret).getD (0, 0)
  { algorithm := a, secret, x := p.1, y := p.2 }

end ProofKey
end Countersign
