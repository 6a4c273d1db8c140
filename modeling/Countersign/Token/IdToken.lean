import Countersign.Credential
import Countersign.Keys.ProofKey
import Countersign.Run.World
import Countersign.Token.Claims
import Countersign.Token.Signature

/-!
# Identity tokens

A user is identified by a signed token of an issuer.  A token is accepted after its signature has been
checked, if a location of signing keys is configured, and its limits; it then becomes a credential
that expires when the token does, later by the configured tolerance.

* `VerificationSettings` — what is asked of a token;
* `VerifiedToken` — the credential and the identifier of its session;
* `IdToken.accept` — the decision on a token, once the key is known;
* `IdToken.verify` — fetches the key and decides.
-/

namespace Countersign

/-- What is asked of a token. -/
structure VerificationSettings where
  /-- Whom tokens have to be meant for. -/
  audience : Option String := none
  /-- Where the issuer publishes its keys; signatures are checked only if it is known. -/
  keyLocation : Option Url := none
  /-- Seconds for which a token is accepted after its expiration. -/
  grace : Nat := 0
  proofKeys : List ProofKey := []
deriving DecidableEq, Repr, Inhabited

/-- The longest tolerance: a day. -/
def VerificationSettings.maxGrace : Nat := 86400

/-- What an accepted token gives. -/
structure VerifiedToken where
  credential : Credential
  session : String
deriving DecidableEq, Repr, Inhabited

namespace IdToken

open Program

/-- The name under which sessions hold their token. -/
def name : String := "http://openid.net/specs/openid-connect-core-1_0.html#IDToken"

/-! ## Accepting a token -/

/-- The claims of a token: the signature is checked first, if there is a key. -/
def claims (token : String) (h : TokenHeader) (key : Option VerificationKey) :
    Except TokenError (IdentityClaims × LimitClaims) :=
  match Token.split? token with
  | none => .error .notThreeParts
  | some parts => do
    -- the signature comes before anything that the payload says
    match key with
    | none => pure ()
    | some k =>
      if k.family ≠ h.algorithm.family then throw .wrongAlgorithm
      Token.checkSignature h.algorithm k (Token.signed parts.header parts.payload) parts.signature
    match Base64.decodeUrl? parts.payload with
    | none => throw .badBase64
    | some octets =>
      match Json.parse? octets with
      | none => throw .badJson
      | some j =>
        match IdentityClaims.ofJson? j, LimitClaims.ofJson? j with
        | some identity, some limits => pure (identity, limits)
        | _, _ => throw .badJson

def digestText (s : String) : String := Hex.encode (Digest.sha256.hash (Utf8.encode s))

def sessionOf (c : IdentityClaims) : String :=
  match c.webid with
  | some webid => digestText webid
  | none => digestText (c.issuer ++ "|" ++ c.subject)

/-- Whom the claims name: the identity on the web, or else the subject, if it is a URL. -/
def principalOf (c : IdentityClaims) : Option Url :=
  (c.webid.bind fun w => (Url.parse w).toOption).or (Url.parse c.subject).toOption

/-- When the credential expires. -/
def expirationOf (c : IdentityClaims) (grace : Nat) : Option Instant :=
  (Instant.ofSeconds? c.expiration).bind fun e => e.addSeconds? grace

/-- The credential of a token: one that is bound to a proof key has the scheme that demands
proofs. -/
def credentialOf (token : String) (c : IdentityClaims) (issuer : Url) (expiration : Instant) :
    Credential where
  scheme := if c.thumbprint.isSome then dpop else bearer
  issuer := issuer
  token := token
  expiration := expiration
  principal := principalOf c
  thumbprint := c.thumbprint

/-- Decides on a token at a moment. -/
def accept (settings : VerificationSettings) (token : String) (h : TokenHeader)
    (key : Option VerificationKey) (now : Instant) : Except CredentialFault VerifiedToken := do
  let (c, limits) ← (claims token h key).mapError .unverifiedToken
  (limits.check settings.audience settings.grace now).mapError .unverifiedToken
  let issuer ← (Url.parse c.issuer).mapError .issuerNotUrl
  -- the credential lives on for the tolerance as well
  match expirationOf c settings.grace with
  | none => throw .expOutOfRange
  | some expiration =>
    return { credential := credentialOf token c issuer expiration, session := sessionOf c }

/-! ## Signing keys -/

def keyRequest (location : Url) : Request :=
  (Request.get location).withHeader "accept" "application/json"

/-- The key in an answer that a token names. -/
def keyFrom (location : Url) (identifier : Option String) (r : Response) :
    Except CredentialFault VerificationKey :=
  if !Status.isSuccess r.status then .error (.keysNotFetched location.toString r.status)
  else
    match KeySet.parse? r.body with
    | none => .error (.keysMalformed location.toString)
    | some keys =>
      match keys.find? identifier with
      | none => .error (.noMatchingKey location.toString)
      | some k =>
        match VerificationKey.ofMaterial? k.material with
        | none => .error (.unusableKey .badBase64)
        | some key => .ok key

def fetchKey (location : Url) (identifier : Option String) :
    Run (Except AuthError VerificationKey) := do
  let answer ← perform (I := World) (.transmit (keyRequest location))
  match answer with
  | .error e => return .error (.transport e)
  | .ok r => return (keyFrom location identifier r).mapError .invalidCredential

/-! ## Verification -/

/-- What can be said of a token before anything is fetched. -/
def header (settings : VerificationSettings) (token : String) :
    Except CredentialFault TokenHeader := do
  let h ← (TokenHeader.ofToken token).mapError .malformedToken
  if VerificationSettings.maxGrace < settings.grace then
    throw (.graceTooLong settings.grace VerificationSettings.maxGrace)
  return h

/-- Decides on a token now. -/
def judge (settings : VerificationSettings) (token : String) (h : TokenHeader)
    (key : Option VerificationKey) : Run (Except AuthError VerifiedToken) := do
  let now ← perform (I := World) .clock
  return (accept settings token h key now).mapError .invalidCredential

def verify (settings : VerificationSettings) (token : String) :
    Run (Except AuthError VerifiedToken) :=
  match header settings token with
  | .error fault => done (.error (.invalidCredential fault))
  | .ok h =>
    match settings.keyLocation with
    | none => judge settings token h none
    | some location => do
      match ← fetchKey location h.keyIdentifier with
      | .error e => return .error e
      | .ok key => judge settings token h (some key)

end IdToken
end Countersign
