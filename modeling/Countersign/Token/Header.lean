import Countersign.Error
import Countersign.Token.Compact
import Countersign.Token.KeySet

/-!
# Headers of signed tokens

The header names the algorithm that signed the token and the key.  All its known fields have to be
well formed, also those that nobody looks at.

* `TokenHeader` — algorithm and key of a token;
* `TokenHeader.ofToken` — the header of a token, or why it has none.
-/

namespace Countersign

open Json

/-- What the header of a token says about its signature. -/
structure TokenHeader where
  algorithm : SignatureAlgorithm
  /-- The type of the token. -/
  kind : Option String := none
  keyIdentifier : Option String := none
  /-- A key that the token itself carries. -/
  key : Option PublishedKey := none
deriving DecidableEq, Repr, Inhabited

namespace TokenHeader

def ofJson? (j : Json) : Option TokenHeader := do
  match ← record? [.firm "typ", .firm "alg", .firm "cty", .firm "jku", .firm "jwk", .firm "kid",
      .firm "x5u", .firm "x5c", .firm "x5t", .firm "x5t#S256"] j with
  | [type, algorithm, content, set, key, identifier, url, chain, digest, longDigest] =>
    let kind ← optional? string? type
    let algorithm ← required? SignatureAlgorithm.ofJson? algorithm
    let _ ← optional? string? content
    let _ ← optional? string? set
    let key ← optional? (PublishedKey.ofJson? 1) key
    let keyIdentifier ← optional? string? identifier
    let _ ← optional? string? url
    let _ ← optional? (listOf? string?) chain
    let _ ← optional? string? digest
    let _ ← optional? string? longDigest
    pure { algorithm, kind, keyIdentifier, key }
  | _ => none

/-- Reads the header from the first part of a token. -/
def ofPart (part : String) : Except TokenError TokenHeader :=
  match Base64.decodeUrl? part with
  | none => .error .badBase64
  | some octets =>
    match Json.parse? octets >>= ofJson? with
    | none => .error .badJson
    | some h => .ok h

def ofToken (token : String) : Except TokenError TokenHeader :=
  match Token.split? token with
  | none => .error .notThreeParts
  | some parts => ofPart parts.header

end TokenHeader
end Countersign
