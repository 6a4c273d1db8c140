import Countersign.Crypto.Digest
import Countersign.Json.Decode

/-!
# Signature algorithms of tokens

* `SignatureFamily` — the kinds of keys;
* `SignatureAlgorithm` — the algorithms, with `name`, `family` and `digest`.
-/

namespace Countersign

/-- The kinds of keys that sign tokens. -/
inductive SignatureFamily where
  /-- A secret that signer and verifier share. -/
  | shared
  | ellipticCurve
  | rsa
  | edwards
deriving DecidableEq, Repr, Inhabited

/-- The algorithms that sign tokens. -/
inductive SignatureAlgorithm where
  | hs256 | hs384 | hs512
  | es256 | es384
  | rs256 | rs384 | rs512
  | ps256 | ps384 | ps512
  | edDsa
deriving DecidableEq, Repr, Inhabited

namespace SignatureAlgorithm

def all : List SignatureAlgorithm :=
  [hs256, hs384, hs512, es256, es384, rs256, rs384, rs512, ps256, ps384, ps512, edDsa]

def name : SignatureAlgorithm → String
  | hs256 => "HS256" | hs384 => "HS384" | hs512 => "HS512"
  | es256 => "ES256" | es384 => "ES384"
  | rs256 => "RS256" | rs384 => "RS384" | rs512 => "RS512"
  | ps256 => "PS256" | ps384 => "PS384" | ps512 => "PS512"
  | edDsa => "EdDSA"

/-- The kind of keys that the algorithm works with. -/
def family : SignatureAlgorithm → SignatureFamily
  | hs256 | hs384 | hs512 => .shared
  | es256 | es384 => .ellipticCurve
  | rs256 | rs384 | rs512 | ps256 | ps384 | ps512 => .rsa
  | edDsa => .edwards

def digest : SignatureAlgorithm → Digest
  | hs256 | es256 | rs256 | ps256 => .sha256
  | hs384 | es384 | rs384 | ps384 => .sha384
  | hs512 | rs512 | ps512 | edDsa => .sha512

/-- Reads the name of an algorithm. -/
def ofJson? (j : Json) : Option SignatureAlgorithm :=
  (Json.choice? (all.map name) j).bind fun n => all.find? fun a => a.name == n

end SignatureAlgorithm
end Countersign
