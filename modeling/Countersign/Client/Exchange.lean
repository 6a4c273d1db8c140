import Countersign.Negotiation.Registry

/-!
# Sending a request

A request is sent as it is, unless the session already holds a credential for its URI.  When the server
refuses it and a credential can be negotiated from the challenges in the refusal, the request is sent
once more with that credential.  If nothing can be negotiated the refusal is the answer.

* `ClientExchange` — the questions of one exchange;
* `ClientExchange.authorize` — a request with a credential;
* `ClientExchange.program` — the exchange as a program over these questions;
* `Client.send` — the exchange in the world.
-/

namespace Countersign

open Program

inductive ClientExchange.Question where
  /-- Which live credential is cached for this request? -/
  | recall (request : Request)
  /-- What is the answer to this request? -/
  | transmit (request : Request)
  /-- Which credential can be negotiated from the challenges of this refusal? -/
  | negotiate (request : Request) (refusal : Response)
  /-- What is a proof for this request by the key with this thumbprint? -/
  | prove (thumbprint : String) (request : Request)

/-- The questions of one exchange with their answers. -/
def ClientExchange : Interface where
  Op := ClientExchange.Question
  Answer
    | .recall _ => Option Credential
    | .transmit _ => Except TransportError Response
    | .negotiate _ _ => Except AuthError (Option Credential)
    | .prove _ _ => Except ProofError (Option String)

namespace ClientExchange

/-- The field that carries a credential. -/
def authorizationField : String := "authorization"

def proofField : String := "dpop"

/-- Sets a field, if the value may be sent. -/
def setField (r : Request) (name value : String) : Except Failure Request :=
  if Headers.isValue (Utf8.encode value) then .ok (r.setHeader name value)
  else .error (.transport (.invalidRequest "invalid header value: failed to parse header value"))

/-- A request with a credential; one that is bound to a key needs a proof for the request. -/
def authorize (r : Request) (c : Credential) : Program ClientExchange (Except Failure Request) :=
  match setField r authorizationField c.authorization with
  | .error e => done (.error e)
  | .ok upgraded =>
    if c.isDpop then
      match c.thumbprint with
      | none => done (.error (.proof .unbound))
      | some thumbprint => do
        -- the proof is about the request as the caller gave it
        match ← perform (I := ClientExchange) (.prove thumbprint r) with
        | .error e => return .error (.proof e)
        | .ok none => return .error (.proof (.unknownThumbprint thumbprint))
        | .ok (some proof) => return setField upgraded proofField proof
    else done (.ok upgraded)

/-- Hands a request to the transport. -/
def transmit (r : Request) : Program ClientExchange (Except Failure Response) := do
  return (← perform (I := ClientExchange) (.transmit r)).mapError .transport

def sendWith (r : Request) (c : Credential) : Program ClientExchange (Except Failure Response) := do
  match ← authorize r c with
  | .error e => return .error e
  | .ok upgraded => transmit upgraded

/-- The status of a refusal that can be negotiated. -/
def unauthorized : Nat := 401

/-- What follows the first answer to a request without credential. -/
def afterAnswer (r : Request) (answer : Response) :
    Program ClientExchange (Except Failure Response) :=
  if answer.status = unauthorized then do
    match ← perform (I := ClientExchange) (.negotiate r answer) with
    -- the second answer is final, whatever it is
    | .ok (some c) => sendWith r c
    | .ok none => return .ok answer
    | .error _ => return .ok answer
  else done (.ok answer)

def program (r : Request) : Program ClientExchange (Except Failure Response) :=
  -- a caller with a credential of its own is left alone
  if r.headers.contains authorizationField then transmit r
  else do
    match ← perform (I := ClientExchange) (.recall r) with
    | some c => sendWith r c
    | none =>
      match ← transmit r with
      | .error e => return .error e
      | .ok answer => afterAnswer r answer

end ClientExchange

/-- A client: the session that it acts for and the registry that answers challenges. -/
structure Client where
  session : Session
  registry : Registry

namespace Client

/-- How the questions of an exchange are answered in the world. -/
def inWorld (c : Client) : (q : ClientExchange.Op) → Run (ClientExchange.Answer q)
  | .recall r => c.session.cached r
  | .transmit r => perform (I := World) (.transmit r)
  | .negotiate r refusal => c.registry.negotiate c.session r refusal.challenges
  | .prove thumbprint r => c.session.proof thumbprint r

/-- Sends a request. Failures of the transport and of making a proof are reported; a failed
negotiation is not, the server's refusal is then the answer. -/
def send (c : Client) (r : Request) : Run (Except Failure Response) :=
  (ClientExchange.program r).interpret c.inWorld

def withSession (c : Client) (s : Session) : Client := { c with session := s }

end Client
end Countersign
