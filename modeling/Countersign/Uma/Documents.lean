import Countersign.Json.Decode
import Countersign.Json.Reader
import Countersign.Url.Parser

/-!
# Documents of an authorization server

An authorization server describes itself in a discovery document, and answers a ticket exchange
with a token or with an error that may ask for more information.

* `Metadata` — the discovery document;
* `TokenAnswer` — a granted token;
* `ErrorAnswer`, `RequiredClaims` — a refusal, and what the server wants to see.
-/

namespace Countersign

namespace Json

/-- An absolute URL in a string. -/
def url? (j : Json) : Option Url :=
  match j.string? with
  | some s => (Url.parse s).toOption
  | none => none

def stringsOr? : Option Json → Option (List String) := orElse? [] (listOf? string?)

end Json

open Json

/-- The discovery document of an authorization server. -/
structure Metadata where
  issuer : Option Url := none
  tokenEndpoint : Url
  jwksUri : Option Url := none
  grantTypes : List String := []
  dpopAlgorithms : List String := []
  profiles : List String := []
deriving DecidableEq, Repr, Inhabited

namespace Metadata

/-- Reads the document. -/
def ofJson? (j : Json) : Option Metadata := do
  match ← record? [.loose "issuer", .firm "token_endpoint", .loose "jwks_uri",
      .loose "grant_types_supported", .loose "dpop_signing_alg_values_supported",
      .loose "uma_profiles_supported"] j with
  | [issuer, endpoint, jwks, grants, algorithms, profiles] =>
    pure {
      issuer := ← optional? url? issuer
      tokenEndpoint := ← required? url? endpoint
      jwksUri := ← optional? url? jwks
      grantTypes := ← stringsOr? grants
      dpopAlgorithms := ← stringsOr? algorithms
      profiles := ← stringsOr? profiles }
  | _ => none

/-- Reads the document from its octets. -/
def parse? (body : Bytes) : Option Metadata := Json.parse? body >>= ofJson?

end Metadata

/-- A token that was granted for a ticket. -/
structure TokenAnswer where
  accessToken : String
  tokenType : String
  /-- The lifetime in seconds, if the server names one. -/
  expiresIn : Option Nat := none
  scope : Option String := none
deriving DecidableEq, Repr, Inhabited

namespace TokenAnswer

def ofJson? (j : Json) : Option TokenAnswer := do
  match ← record? [.firm "access_token", .firm "token_type", .loose "expires_in",
      .loose "scope"] j with
  | [token, type, expires, scope] =>
    pure {
      accessToken := ← required? string? token
      tokenType := ← required? string? type
      expiresIn := ← optional? natural? expires
      scope := ← optional? string? scope }
  | _ => none

/-- Reads the answer from its octets. -/
def parse? (body : Bytes) : Option TokenAnswer := Json.parse? body >>= ofJson?

end TokenAnswer

/-- One kind of claim that the server wants to see. -/
structure RequiredClaims where
  formats : List String := []
  issuers : List String := []
  claimType : Option String := none
  friendlyName : Option String := none
  name : Option String := none
deriving DecidableEq, Repr, Inhabited

namespace RequiredClaims

/-- Reads the requirement. -/
def ofJson? (j : Json) : Option RequiredClaims := do
  match ← record? [.loose "claim_token_format", .loose "issuer", .loose "claim_type",
      .loose "friendly_name", .loose "name"] j with
  | [formats, issuers, type, friendly, name] =>
    pure {
      formats := ← stringsOr? formats
      issuers := ← stringsOr? issuers
      claimType := ← optional? string? type
      friendlyName := ← optional? string? friendly
      name := ← optional? string? name }
  | _ => none

end RequiredClaims

/-- A refusal of the token endpoint. -/
structure ErrorAnswer where
  error : Option String := none
  description : Option String := none
  ticket : Option String := none
  redirectUser : Option String := none
  requiredClaims : List RequiredClaims := []
deriving DecidableEq, Repr, Inhabited

namespace ErrorAnswer

/-- Reads the refusal. -/
def ofJson? (j : Json) : Option ErrorAnswer := do
  match ← record? [.loose "error", .loose "error_description", .loose "ticket",
      .loose "redirect_user", .loose "required_claims"] j with
  | [error, description, ticket, redirect, claims] =>
    pure {
      error := ← optional? string? error
      description := ← optional? string? description
      ticket := ← optional? string? ticket
      redirectUser := ← optional? string? redirect
      requiredClaims := ← orElse? [] (listOf? RequiredClaims.ofJson?) claims }
  | _ => none

/-- Reads the refusal from its octets. -/
def parse? (body : Bytes) : Option ErrorAnswer := Json.parse? body >>= ofJson?

end ErrorAnswer
end Countersign
