import Countersign.Run.World

/-!
# Gathering claims

An authorization server may ask for more claims before it gives a token.  A handler gathers a claim
token of one format from one issuer; the first handler that fits any of the requirements is asked, the
requirements taken in the server's order.

* `ClaimToken` — a gathered claim;
* `NeedInfo` — what the server asks for;
* `ClaimHandler` — a source of claim tokens;
* `ClaimHandler.choose` — the handler that is asked.
-/

namespace Countersign

structure ClaimToken where
  token : String
  kind : String
deriving DecidableEq, Repr, Inhabited

/-- What a server asks for: a new ticket, and claims. -/
structure NeedInfo where
  ticket : String
  /-- Where the user could give the claims in person. -/
  redirect : Option Url := none
  required : List RequiredClaims := []
deriving DecidableEq, Repr, Inhabited

namespace NeedInfo

/-- The question in a refusal, which needs a ticket. -/
def ofAnswer (a : ErrorAnswer) : Except UmaError NeedInfo :=
  match a.ticket with
  | none => .error (.needInfo "missing ticket")
  | some ticket =>
    .ok {
      ticket
      redirect := a.redirectUser.bind fun u => (Url.parse u).toOption
      required := a.requiredClaims }

end NeedInfo

/-- A source of claim tokens. -/
structure ClaimHandler where
  format : String
  issuer : String
  claimType : String
  gather : Run (Except UmaError (Option ClaimToken))

namespace ClaimHandler

/-- Whether a handler fits a requirement: an empty list of formats or issuers accepts any, and the
type of claim has to be given and equal. -/
def fits (h : ClaimHandler) (r : RequiredClaims) : Bool :=
  (r.formats.isEmpty || r.formats.contains h.format) &&
    (r.issuers.isEmpty || r.issuers.contains h.issuer) && r.claimType == some h.claimType

/-- The number of the handler that is asked. -/
def choose (hs : List ClaimHandler) (required : List RequiredClaims) : Option Nat :=
  required.findSome? fun r => hs.findIdx? fun h => h.fits r

/-- Asks the handler of a number. -/
def gatherAt (hs : List ClaimHandler) (i : Nat) : Run (Except UmaError (Option ClaimToken)) :=
  match hs[i]? with
  | some h => h.gather
  | none => .done (.ok none)

/-- Asks the handler that fits what a server wants to see. -/
def gatherFor (hs : List ClaimHandler) (n : NeedInfo) : Run (Except UmaError (Option ClaimToken)) :=
  match choose hs n.required with
  | some i => gatherAt hs i
  | none => .done (.ok none)

end ClaimHandler
end Countersign
