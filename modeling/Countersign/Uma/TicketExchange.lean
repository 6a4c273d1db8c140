import Countersign.Session.Basic
import Countersign.Uma.Claims
import Countersign.Url.Percent

/-!
# Exchanging a ticket for a token

A ticket is posted to the token endpoint.  The server answers with a token, refuses, or asks for claims
and gives a new ticket; then the exchange goes on with the new ticket and the gathered claim, for a
limited number of rounds.  What the exchange asks of the outside is three things: that a request is
sent, that a claim is gathered, and that a proof is made.

* `TicketRequest` — what is posted;
* `TicketExchange` — the questions of an exchange;
* `TicketExchange.rounds` — the exchange as a program over these questions;
* `TicketExchange.run` — the exchange in the world, on behalf of a session.
-/

namespace Countersign

open Program

/-- What is posted to the token endpoint. -/
structure TicketRequest where
  ticket : String
  /-- A token of claims that the server knows already. -/
  persistedClaims : Option String := none
  previousToken : Option String := none
  claim : Option ClaimToken := none
  scopes : List String := []
deriving DecidableEq, Repr, Inhabited

namespace TicketRequest

/-- The kind of the exchange. -/
def grant : String := "urn:ietf:params:oauth:grant-type:uma-ticket"

/-- The fields of the form, in order. -/
def fields (t : TicketRequest) : List (String × String) :=
  [("grant_type", grant), ("ticket", t.ticket)] ++
  (t.persistedClaims.map fun p => ("pct", p)).toList ++
  (t.previousToken.map fun p => ("rpt", p)).toList ++
  (match t.claim with
    | some c => [("claim_token", c.token), ("claim_token_type", c.kind)]
    | none => []) ++
  (if t.scopes.isEmpty then [] else [("scope", " ".intercalate t.scopes)])

/-- The request for a round that follows a question for claims. -/
def next (t : TicketRequest) (n : NeedInfo) (claim : Option ClaimToken) : TicketRequest :=
  { ticket := n.ticket, claim, scopes := t.scopes }

/-- The post to an endpoint, without a proof. -/
def post (endpoint : Url) (t : TicketRequest) : Request :=
  { (((({ method := "POST", uri := endpoint } : Request).withHeader "content-type"
      "application/x-www-form-urlencoded").withHeader "accept" "application/json")) with
    body := some (Utf8.encode (Percent.form t.fields)) }

end TicketRequest

inductive TicketExchange.Question where
  /-- What is the answer to this post? -/
  | post (request : Request)
  /-- What does the handler of this number gather? -/
  | gather (handler : Nat)
  /-- What is a proof for this request by the key with this thumbprint? -/
  | prove (thumbprint : String) (request : Request)

/-- The questions of an exchange with their answers. -/
def TicketExchange : Interface where
  Op := TicketExchange.Question
  Answer
    | .post _ => Except TransportError Response
    | .gather _ => Except UmaError (Option ClaimToken)
    | .prove _ _ => Except ProofError (Option String)

namespace TicketExchange

/-! ## Answers of the server -/

/-- What an answer of the token endpoint means. -/
inductive Verdict where
  | granted (token : TokenAnswer)
  | refused (cause : UmaError)
  | asked (question : NeedInfo)
deriving DecidableEq, Repr

/-- An answer that is no answer of the exchange. -/
def unexpected (r : Response) : UmaError := .unexpectedStatus r.status (Utf8.decodeLossy r.body)

def refusal (r : Response) (a : ErrorAnswer) : Verdict :=
  match a.error with
  | some "need_info" =>
    match NeedInfo.ofAnswer a with
    | .ok n => .asked n
    | .error e => .refused e
  | some "request_denied" =>
    .refused (.requestDenied (a.description.getD
      "the client is not authorized for the requested permissions"))
  | some "invalid_grant" => .refused (.invalidGrant (a.description.getD "invalid grant provided"))
  | some "invalid_scope" => .refused (.invalidScope (a.description.getD "invalid scope provided"))
  | _ => .refused (unexpected r)

/-- What an answer of the token endpoint means. -/
def verdict (r : Response) : Verdict :=
  if r.status == 200 then
    match TokenAnswer.parse? r.body with
    | some t => .granted t
    | none => .refused .malformedAnswer
  else
    -- whatever the status, the body says what was wrong
    match ErrorAnswer.parse? r.body with
    | some a => refusal r a
    | none => .refused (unexpected r)

/-! ## Rounds -/

/-- Sets the proof, if its text may be sent. -/
def withProof (post : Request) (proof : String) : Except UmaError Request :=
  if Headers.isValue (Utf8.encode proof) then .ok (post.setHeader "dpop" proof)
  else .error (.transport (.invalidRequest "invalid DPoP header: failed to parse header value"))

theorem withProof_eq_ok {post up : Request} {proof : String} :
    withProof post proof = .ok up ↔
      Headers.isValue (Utf8.encode proof) = true ∧ up = post.setHeader "dpop" proof := by
  unfold withProof
  split
  · simp [*, eq_comm]
  · simp [*]

/-- The post with a proof by the bound key. -/
def proven (post : Request) : Option String → Program TicketExchange (Except UmaError Request)
  | none => done (.ok post)
  | some thumbprint => do
    match ← perform (I := TicketExchange) (.prove thumbprint post) with
    | .error e => return .error (.proof e)
    | .ok none => return .error (.proof (.unknownThumbprint thumbprint))
    | .ok (some proof) => return withProof post proof

def gathered (handlers : List ClaimHandler) (n : NeedInfo) :
    Program TicketExchange (Except UmaError (Option ClaimToken)) :=
  match ClaimHandler.choose handlers n.required with
  | none => done (.ok none)
  | some i => perform (I := TicketExchange) (.gather i)

/-- At most `left` rounds of an exchange that is limited to `limit` rounds. -/
def rounds (limit : Nat) (endpoint : Url) (handlers : List ClaimHandler) (bound : Option String) :
    Nat → TicketRequest → Program TicketExchange (Except UmaError TokenAnswer)
  | 0, _ => done (.error (.maxIterations limit))
  | left + 1, t => do
    match ← proven (t.post endpoint) bound with
    | .error e => return .error e
    | .ok post =>
      match ← perform (I := TicketExchange) (.post post) with
      | .error e => return .error (.transport e)
      | .ok r =>
        match verdict r with
        -- only a question for claims leads to another round
        | .granted token => return .ok token
        | .refused e => return .error e
        | .asked n =>
          match ← gathered handlers n with
          | .error e => return .error e
          | .ok claim => rounds limit endpoint handlers bound left (t.next n claim)

/-- How the questions of an exchange are answered in the world. -/
def inWorld (session : Session) (handlers : List ClaimHandler) :
    (q : TicketExchange.Op) → Run (TicketExchange.Answer q)
  | .post r => perform (I := World) (.transmit r)
  | .gather i => ClaimHandler.gatherAt handlers i
  | .prove thumbprint r => session.proof thumbprint r

/-- The exchange of a ticket on behalf of a session; `bound` names the key that the token is to be
bound to. -/
def run (limit : Nat) (session : Session) (endpoint : Url) (t : TicketRequest)
    (handlers : List ClaimHandler) (bound : Option String) : Run (Except UmaError TokenAnswer) :=
  (rounds limit endpoint handlers bound limit t).interpret (inWorld session handlers)

end TicketExchange
end Countersign
