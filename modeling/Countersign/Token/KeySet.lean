import Countersign.Json.Reader
import Countersign.Text.Base64
import Countersign.Token.Algorithm

/-!
# Published keys

An issuer publishes its keys as a set.  A token names the key that signed it by an identifier; a token
without one is signed by the first key.  The algorithm and the use that a key states are not looked
at.

* `KeyMaterial` — the parts of a key as they are published;
* `PublishedKey` — a key with its identifier;
* `KeySet` — the keys of an issuer, in order;
* `VerificationKey` — a key whose parts are decoded.
-/

namespace Countersign

open Json

/-- The parts of a key, in base64. -/
inductive KeyMaterial where
  | ellipticCurve (x y : String)
  | rsa (modulus exponent : String)
  | shared (secret : String)
  | edwards (point : String)
deriving DecidableEq, Repr, Inhabited

namespace KeyMaterial

/-- The names of curves that keys may be on. -/
def curves : List String := ["P-256", "P-384", "P-521", "Ed25519"]

/-- Reads the parts that follow from a kind of key. -/
def ofFields? (kind : String) (names : List String) (make : List String → Option KeyMaterial)
    (j : Json) : Option KeyMaterial := do
  match ← record? (Field.firm "kty" :: names.map Field.firm) j with
  | k :: values =>
    let _ ← required? (choice? [kind]) k
    let texts ← (names.zip values).mapM fun (n, v) =>
      if n = "crv" then required? (choice? curves) v else required? string? v
    make texts
  | [] => none

/-- Reads the parts of a key of any kind. -/
def ofJson? (j : Json) : Option KeyMaterial :=
  -- the kinds exclude each other by their name
  ofFields? "EC" ["crv", "x", "y"] (fun
    | [_, x, y] => some (ellipticCurve x y)
    | _ => none) j <|>
  ofFields? "RSA" ["n", "e"] (fun
    | [n, e] => some (rsa n e)
    | _ => none) j <|>
  ofFields? "oct" ["k"] (fun
    | [k] => some (shared k)
    | _ => none) j <|>
  ofFields? "OKP" ["crv", "x"] (fun
    | [_, x] => some (edwards x)
    | _ => none) j

end KeyMaterial

structure PublishedKey where
  identifier : Option String := none
  material : KeyMaterial
deriving DecidableEq, Repr, Inhabited

namespace PublishedKey

/-- A word of an open list, written as a string or as an object with that one field and no value. -/
def anyWord? : Json → Option String
  | .text s => s
  | .object [(s, .null)] => s
  | _ => none

/-- Reads a key that stands inside `outer` lists and objects: an object all of whose strings are
text. -/
def ofJson? (outer : Nat) (j : Json) : Option PublishedKey := do
  match j with
  | .object fields =>
    -- all of a key is looked at, also fields that nobody knows
    if !isSoundAt (maxDepth - outer) j then none
    match ← record? [.loose "use", .loose "key_ops", .loose "alg", .loose "kid", .loose "x5u",
        .loose "x5c", .loose "x5t", .loose "x5t#S256"] j with
    | [use, operations, algorithm, identifier, url, chain, digest, longDigest] =>
      let _ ← optional? string? use
      let _ ← optional? (listOf? string?) operations
      let _ ← optional? anyWord? algorithm
      let identifier ← optional? string? identifier
      let _ ← optional? string? url
      let _ ← optional? (listOf? string?) chain
      let _ ← optional? string? digest
      let _ ← optional? string? longDigest
      let material ← KeyMaterial.ofJson? (.object fields)
      pure { identifier, material }
    | _ => none
  | _ => none

end PublishedKey

/-- The keys of an issuer, in order. -/
structure KeySet where
  keys : List PublishedKey := []
deriving DecidableEq, Repr, Inhabited

namespace KeySet

def ofJson? (j : Json) : Option KeySet := do
  match ← record? [.firm "keys"] j with
  | [keys] => pure ⟨← required? (listOf? (PublishedKey.ofJson? 2)) keys⟩
  | _ => none

/-- Reads the set from its octets. -/
def parse? (body : Bytes) : Option KeySet := Json.parse? body >>= ofJson?

/-- The first key with an identifier, or the first key if none is asked for. -/
def find? (s : KeySet) : Option String → Option PublishedKey
  | some identifier => s.keys.find? fun k => k.identifier == some identifier
  | none => s.keys.head?

end KeySet

/-- A key whose parts are decoded. -/
inductive VerificationKey where
  | ellipticCurve (x y : Bytes)
  | rsa (modulus exponent : Bytes)
  | shared (secret : Bytes)
  | edwards (point : Bytes)
deriving DecidableEq, Repr, Inhabited

namespace VerificationKey

def family : VerificationKey → SignatureFamily
  | ellipticCurve _ _ => .ellipticCurve
  | rsa _ _ => .rsa
  | shared _ => .shared
  | edwards _ => .edwards

/-- Decodes the parts of a key. -/
def ofMaterial? : KeyMaterial → Option VerificationKey
  | .ellipticCurve x y => do return .ellipticCurve (← Base64.decodeUrl? x) (← Base64.decodeUrl? y)
  | .rsa n e => do return .rsa (← Base64.decodeUrl? n) (← Base64.decodeUrl? e)
  | .shared k => (Base64.decodeUrl? k).map .shared
  | .edwards x => (Base64.decodeUrl? x).map .edwards

end VerificationKey
end Countersign
