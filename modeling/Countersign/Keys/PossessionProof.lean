import Countersign.Instant
import Countersign.Keys.Keyring
import Countersign.Run.World
import Countersign.Text.Uuid
import Countersign.Token.Compact

/-!
# Proofs of possession

A proof is a signed token made for one request.  It names the method and the URI of the request
without its fragment, the moment, and a random identifier that is never used again; its header
carries the public half of the key that signed it.

* `PossessionProof.token` — the proof for given data;
* `PossessionProof.ofKey` — a fresh proof by a key, if it can be signed;
* `PossessionProof.make` — a fresh proof by the key of an algorithm.
-/

namespace Countersign

open Program

namespace PossessionProof

/-- The type of the token. -/
def kind : String := "dpop+jwt"

def header (k : ProofKey) : Json :=
  .ofFields [("typ", .string kind), ("alg", .string k.algorithm.name), ("jwk", k.jwk)]

def payload (identifier method : String) (uri : Url) (now : Instant) : Json :=
  .ofFields [("jti", .string identifier), ("htm", .string method),
    ("htu", .string uri.withoutFragment.toString), ("iat", .integer now.seconds)]

def token (k : ProofKey) (identifier method : String) (uri : Url) (now : Instant) : String :=
  Token.assemble (header k) (payload identifier method uri now) k.sign

/-- Octets of randomness that blind the making of a signature. -/
def blindingSize (k : ProofKey) : Nat := k.algorithm.curve.size

def ofKey (k : ProofKey) (method : String) (uri : Url) : Run (Except ProofError String) := do
  let octets ← perform (I := World) (.entropy 16)
  let now ← perform (I := World) .clock
  -- the signature does not depend on these octets, but without them it is not made
  let blinding ← perform (I := World) (.entropy (blindingSize k))
  if blinding.length < blindingSize k then return .error .signing
  return .ok (token k (Uuid.ofOctets octets) method uri now)

def make (r : Keyring) (algorithm method : String) (uri : Url) : Run (Except ProofError String) :=
  match r.key? algorithm with
  | none => done (.error (.unsupportedAlgorithm algorithm))
  | some k => ofKey k method uri

end PossessionProof

/-- The table of some keys, or of one fresh key if there are none. -/
def Keyring.orFresh (keys : List ProofKey) : Run Keyring :=
  if keys.isEmpty then do
    let seed ← perform (I := World) (.entropy ProofKey.seedSize)
    return Keyring.ofKeys [ProofKey.ofSeed .es256 seed]
  else done (Keyring.ofKeys keys)

end Countersign
