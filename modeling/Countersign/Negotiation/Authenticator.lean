import Countersign.Session.Basic

/-!
# Answering a challenge

A provider answers the challenges of its schemes.  For a challenge that has what it needs it gives an
authenticator, and the authenticator obtains a credential for a request on behalf of a session.

* `Authenticator` — one way of answering a challenge;
* `Provider` — the authenticators of a family of schemes;
* `Session.authenticate` — runs an authenticator and keeps its credential;
* `IdToken.provider` — presents the identity token of the session.
-/

namespace Countersign

open Program

/-- One way of answering a challenge. -/
structure Authenticator where
  name : String
  /-- Of several authenticators the one with the greatest priority runs. -/
  priority : Int
  /-- Obtains a credential for a request; the names are the proof algorithms that the server
  advertised beside its challenges. -/
  acquire : Session → Request → Names → Run (Except AuthError Credential)

/-- The authenticators of a family of schemes. -/
structure Provider where
  schemes : Names
  /-- The authenticator for a challenge, or what the challenge lacks. -/
  authenticator : Challenge → Except AuthError Authenticator

/-- Runs an authenticator and keeps its credential under the URI of the request. -/
def Session.authenticate (s : Session) (a : Authenticator) (r : Request) (algorithms : Names) :
    Run (Except AuthError (Option Credential)) := do
  match ← a.acquire s r algorithms with
  | .error e => return .error e
  | .ok c =>
    CredentialCache.put s.number r.uri c
    return .ok (some c)

namespace IdToken

/-- The priority of identity tokens. -/
def priority : Int := 50

/-- What the session's token has to be for a challenge. -/
def presentable (needsProof : Bool) : Except AuthError (Option Credential) →
    Except AuthError Credential
  | .error e => .error e
  | .ok none => .error (.negotiation "session has no ID token")
  | .ok (some c) =>
    if needsProof && c.thumbprint.isNone then
      .error (.negotiation "DPoP challenge but the ID token is not bound to a proof key")
    else .ok c

/-- Presents the identity token of the session under the token's own scheme. -/
def authenticator (needsProof : Bool) : Authenticator where
  name := "OpenId"
  priority := priority
  acquire s _ _ := (s.credential name).map (presentable needsProof)

/-- Answers challenges for bearer tokens and for bound tokens. -/
def provider : Provider where
  schemes := Names.ofList [bearer, dpop]
  authenticator c :=
    if c.isScheme dpop then .ok (authenticator true)
    else if c.isScheme bearer then .ok (authenticator false)
    else .error (.invalidChallenge ("OpenID cannot answer " ++ c.scheme ++ " challenges"))

end IdToken
end Countersign
