import Countersign.Keys.PossessionProof
import Countersign.Session.Slot
import Countersign.Text.Uuid
import Countersign.Token.IdToken

/-!
# Sessions

A session is the identity that the client acts as.  An anonymous session has none, and only
exchanges tickets; a session of an identity token presents that token, and makes proofs of possession
if it has keys.  What changes over time lies in the session's vault.

* `Identity`, `Session` — the fixed part of a session;
* `Session.anonymous`, `Session.ofToken`, `Session.ofSource` — the ways to begin one;
* `Session.credential` — the long-lived credential, refreshed if need be;
* `Session.proof` — a proof of possession by a key of the session;
* `Session.reset` — forgets every credential.
-/

namespace Countersign

open Program

/-- Whom a session acts as. -/
inductive Identity where
  | anonymous
  /-- The user of an identity token; `renewable` says that a source gives fresh tokens. -/
  | openId (settings : VerificationSettings) (renewable : Bool)
deriving DecidableEq, Repr, Inhabited

/-- A session: the number of its vault, its identifier and its identity. -/
structure Session where
  number : SessionId
  name : String
  identity : Identity
deriving DecidableEq, Repr, Inhabited

/-- The table of the proof keys, if there are any. -/
def VerificationSettings.keyring (v : VerificationSettings) : Option Keyring :=
  if v.proofKeys.isEmpty then none else some (Keyring.ofKeys v.proofKeys)

namespace Session

/-! ## What a session can do -/

/-- The table of proof keys of a session. -/
def keyring (s : Session) : Option Keyring :=
  match s.identity with
  | .anonymous => none
  | .openId settings _ => settings.keyring

def schemes (s : Session) : Names :=
  match s.identity with
  | .anonymous => Names.ofList [uma]
  | .openId settings _ =>
    Names.ofList (if settings.keyring.isSome then [bearer, dpop] else [bearer])

open Text in
/-- Whether the session can answer a scheme; every session can exchange tickets. -/
def supports (s : Session) (scheme : String) : Bool :=
  sameLetters scheme uma || s.schemes.toList.any fun x => sameLetters x scheme

/-- The thumbprint of the key of the least algorithm that is among the given ones. -/
def selectThumbprint (s : Session) (algorithms : Names) : Option String :=
  s.keyring.bind fun r => r.select? algorithms

/-- A proof for a request by the key with a thumbprint, or `none` without such a key. -/
def proof (s : Session) (thumbprint : String) (r : Request) :
    Run (Except ProofError (Option String)) :=
  match s.keyring.bind fun ring => (ring.algorithm? thumbprint).map fun a => (ring, a) with
  | none => done (.ok none)
  | some (ring, a) => do
    match ← PossessionProof.make ring a r.method r.uri with
    | .error e => return .error e
    | .ok token => return .ok (some token)

/-! ## The long-lived credential -/

/-- Asks the source for a fresh token and verifies it. -/
def renew (number : SessionId) (settings : VerificationSettings) :
    Run (Except AuthError (Option Credential)) := do
  perform (I := World) .pause
  match ← perform (I := World) (.freshToken number) with
  | .error e => return .error e
  | .ok token =>
    match ← IdToken.verify settings token with
    | .error e => return .error e
    | .ok verified => return .ok (some verified.credential)

def refresh (s : Session) : Run (Except AuthError (Option Credential)) :=
  match s.identity with
  | .openId settings true => renew s.number settings
  | _ => done (.ok none)

/-- The long-lived credential of a name, refreshed if need be. -/
def credential (s : Session) (name : String) : Run (Except AuthError (Option Credential)) :=
  match s.identity with
  | .anonymous => done (.ok none)
  | .openId _ _ =>
    if name = IdToken.name then Slot.getOrRefresh s.number s.refresh else done (.ok none)

/-- Whom the session acts as, also after its credential has expired. -/
def principal (s : Session) : Run (Option Url) :=
  match s.identity with
  | .anonymous => done none
  | .openId _ _ => (Slot.last s.number).map fun c => c.bind Credential.principal

/-! ## Negotiated credentials -/

/-- The live credential that was negotiated for the URI of a request. -/
def cached (s : Session) (r : Request) : Run (Option Credential) := CredentialCache.get s.number r.uri

/-- Forgets every credential: the long-lived one first, then the negotiated ones. -/
def reset (s : Session) : Run Unit := do
  match s.identity with
  | .anonymous => pure ()
  | .openId _ _ => Slot.clear s.number
  CredentialCache.clear s.number

/-! ## Beginning a session -/

/-- Begins a session without identity. -/
def anonymous (number : SessionId) (settings : CacheSettings) : Run Session := do
  let octets ← perform (I := World) (.entropy 16)
  perform (I := World) (.establish number settings none)
  return { number, name := Uuid.ofOctets octets, identity := .anonymous }

/-- Begins a session of a token that is verified now. -/
def ofToken (number : SessionId) (settings : CacheSettings) (verification : VerificationSettings)
    (token : String) : Run (Except AuthError Session) := do
  match ← IdToken.verify verification token with
  | .error e => return .error e
  | .ok verified =>
    perform (I := World) (.establish number settings (some verified.credential))
    return .ok { number, name := verified.session, identity := .openId verification false }

/-- Begins a session whose token comes from a source when it is first needed. -/
def ofSource (number : SessionId) (settings : CacheSettings) (verification : VerificationSettings) :
    Run Session := do
  let octets ← perform (I := World) (.entropy 16)
  perform (I := World) (.establish number settings none)
  return { number, name := Uuid.ofOctets octets, identity := .openId verification true }

end Session
end Countersign
