import Countersign.Negotiation.Registry
import Countersign.Uma.Discovery
import Countersign.Uma.TicketExchange

/-!
# Answering ticket challenges

A ticket challenge names an authorization server and a ticket.  The ticket is exchanged for a token,
with the identity token of the session as a claim.  If the server accepts proofs and the session has a
key for one of its algorithms, the new token is bound to that key.

* `TicketChallenge` — the parts of a challenge;
* `TokenAnswer.expiration` — until when a granted token is live;
* `TicketProvider` — answers ticket challenges.
-/

namespace Countersign

open Program

structure TicketChallenge where
  server : Url
  ticket : String
deriving DecidableEq, Repr, Inhabited

namespace TicketChallenge

/-- The parts of a challenge, or what it lacks. -/
def ofChallenge (c : Challenge) : Except UmaError TicketChallenge :=
  if !c.isScheme uma then .error (.invalidChallenge ("scheme " ++ c.scheme))
  else
    match c.parameter "as_uri" with
    | none => .error (.invalidChallenge "missing as_uri")
    | some text =>
      match Url.parse text with
      | .error e => .error (.invalidChallenge ("as_uri " ++ text ++ ": " ++ e.message))
      | .ok server =>
        match c.parameter "ticket" with
        | none => .error (.invalidChallenge "missing ticket")
        | some ticket => .ok { server, ticket }

end TicketChallenge

/-- Seconds for which a token lives if the server does not say. -/
def TokenAnswer.defaultLifetime : Nat := 300

/-- Until when a token that is granted now is live, if that can be represented. -/
def TokenAnswer.expiration (lifetime : Option Nat) (now : Instant) : Except AuthError Instant :=
  match now.addSeconds? (lifetime.getD defaultLifetime) with
  | some e => .ok e
  | none => .error (.invalidCredential (.lifetimeOutOfRange (lifetime.getD 0)))

/-- Answers ticket challenges. -/
structure TicketProvider where
  /-- How many rounds an exchange may take. -/
  rounds : Nat := 5
  handlers : List ClaimHandler := []
  priority : Int := 100

namespace TicketProvider

def credentialOf (server : Url) (t : TokenAnswer) (expiration : Instant) (idToken : Option Credential)
    (bound : Option String) : Credential where
  scheme := t.tokenType
  issuer := server
  token := t.accessToken
  expiration := expiration
  principal := idToken.bind Credential.principal
  -- a token that was not bound anew is bound as the identity token is
  thumbprint := bound.or (idToken.bind Credential.thumbprint)

/-- The exchange for a session whose identity token is known, at a discovered server. -/
def exchange (p : TicketProvider) (c : TicketChallenge) (s : Session) (idToken : Option Credential)
    (m : Metadata) : Run (Except AuthError Credential) := do
  let bound := s.selectThumbprint (Names.ofList m.dpopAlgorithms)
  let claim := idToken.map fun i => (⟨i.token, IdToken.name⟩ : ClaimToken)
  let t : TicketRequest := { ticket := c.ticket, claim }
  match ← TicketExchange.run p.rounds s m.tokenEndpoint t p.handlers bound with
  | .error e => return .error (.uma e)
  | .ok token =>
    let now ← perform (I := World) .clock
    return (TokenAnswer.expiration token.expiresIn now).map fun e =>
      credentialOf c.server token e idToken bound

/-- Obtains a credential for a ticket. -/
def acquire (p : TicketProvider) (c : TicketChallenge) (s : Session) :
    Run (Except AuthError Credential) := do
  match ← s.credential IdToken.name with
  | .error e => return .error e
  | .ok idToken =>
    match ← Discovery.document c.server with
    | .error e => return .error (.uma e)
    | .ok m => p.exchange c s idToken m

def authenticator (p : TicketProvider) (c : TicketChallenge) : Authenticator where
  name := "UMA"
  priority := p.priority
  acquire s _ _ := p.acquire c s

def provider (p : TicketProvider) : Provider where
  schemes := Names.ofList [uma]
  authenticator c :=
    match TicketChallenge.ofChallenge c with
    | .ok t => .ok (p.authenticator t)
    | .error e => .error (.invalidChallenge e.message)

end TicketProvider

/-- Identity tokens and ticket exchanges under some settings. -/
def Registry.standard (settings : NegotiationSettings) (tickets : TicketProvider) : Registry :=
  ((Draft.ofSettings settings).withProvider IdToken.provider |>.withProvider tickets.provider).build

end Countersign
