import Countersign.Error
import Countersign.Instant
import Countersign.Json.Reader
import Countersign.Json.Decode

/-!
# Claims of an identity token

The payload of a token is read twice: once for what it says about its subject, where every field has
to have its type, and once for the limits on its use, where a field of another type counts as absent.

* `IdentityClaims` — whom the token speaks for;
* `LimitClaims` — until when and for whom it may be used;
* `LimitClaims.check` — whether it may be used now.
-/

namespace Countersign

open Json

/-- Whom a token speaks for. -/
structure IdentityClaims where
  issuer : String
  subject : String
  expiration : Int
  /-- The identity on the web, if it differs from the subject. -/
  webid : Option String := none
  /-- The thumbprint of the proof key that the token is bound to. -/
  thumbprint : Option String := none
deriving DecidableEq, Repr, Inhabited

namespace IdentityClaims

/-- Reads what the token is bound to. -/
def confirmation? (j : Json) : Option (Option String) := do
  match ← record? [.loose "jkt"] j with
  | [thumbprint] => optional? string? thumbprint
  | _ => none

def ofJson? (j : Json) : Option IdentityClaims := do
  match ← record? [.firm "iss", .firm "sub", .firm "exp", .firm "iat", .loose "webid",
      .loose "cnf"] j with
  | [issuer, subject, expiration, issued, webid, confirmation] =>
    let issuer ← required? string? issuer
    let subject ← required? string? subject
    let expiration ← required? integer? expiration
    let _ ← required? integer? issued
    let webid ← optional? string? webid
    let bound ← optional? confirmation? confirmation
    pure { issuer, subject, expiration, webid, thumbprint := bound.join }
  | _ => none

end IdentityClaims

/-- Limits on the use of a token. -/
structure LimitClaims where
  expiration : Option Nat := none
  /-- For whom the token is meant. -/
  audience : Option (List String) := none
deriving DecidableEq, Repr, Inhabited

namespace LimitClaims

/-- The audience that a value names. -/
def audienceOf : Json → Option (List String)
  | .text (some s) => some [s]
  | .list items => items.mapM string?
  | _ => none

/-- Whether a value can be passed over where a number should stand. -/
def isPassable : Json → Bool
  | .list items => items.isEmpty
  | .object fields => fields.isEmpty
  | .text s => s.isSome
  | j => j.isFinite

def ofJson? (j : Json) : Option LimitClaims := do
  match ← record? [.loose "exp", .loose "nbf", .firm "sub", .firm "iss", .firm "aud"] j with
  | [expiration, start, _, _, audience] =>
    if !(expiration.all isPassable && start.all isPassable &&
        audience.all (isSoundAt (maxDepth - 1))) then none
    else pure { expiration := expiration.bind natural?, audience := audience.bind audienceOf }
  | _ => none

/-- Whether a token may be used: it needs an expiration, which must not lie more than the tolerance in
the past, and if it names an audience the expected one has to be among it. -/
def check (c : LimitClaims) (expected : Option String) (tolerance : Nat) (now : Instant) :
    Except TokenError Unit :=
  match c.expiration with
  | none => .error (.missingClaim "exp")
  | some e =>
    if (e : Int) < now.seconds - tolerance then .error .expired
    else
      match expected, c.audience with
      | some a, some audience => if audience.contains a then .ok () else .error .wrongAudience
      | _, _ => .ok ()

end LimitClaims
end Countersign
