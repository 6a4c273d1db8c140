import Countersign.Text.Quoted
import Countersign.Url.Host

/-!
# What can go wrong

Every failure is a cause with its data.  The wording of each is given once, here; failures that
wrap others put their own words in front.

* `TransportError` — a request was not answered;
* `ProofError` — a proof of possession cannot be made;
* `TokenError`, `CredentialFault` — a token is not acceptable;
* `UmaError` — a ticket exchange failed;
* `AuthError` — authentication failed;
* `SettingsFault`, `ArgumentFault` — settings or arguments cannot be used;
* `Failure` — what the client or the command reports to its user.
-/

namespace Countersign

/-- Failures of the transport. They end the request: nothing is negotiated or sent again. -/
inductive TransportError where
  | timeout (uri : String)
  | connect (uri reason : String)
  | invalidRequest (reason : String)
  | request (reason : String)
deriving DecidableEq, Repr, Inhabited

namespace TransportError

/-- The wording of the failure. -/
def message : TransportError → String
  | timeout uri => "request to " ++ uri ++ " timed out"
  | connect uri reason => "connection to " ++ uri ++ " failed: " ++ reason
  | invalidRequest reason => "invalid request: " ++ reason
  | request reason => "request failed: " ++ reason

end TransportError

/-- Why a proof key is of no use. -/
inductive KeyFault where
  /-- The document is no private key of the algorithm. -/
  | foreign (algorithm : String)
  /-- A key document holds no private key. -/
  | absent
  /-- A key file holds no private key. -/
  | absentIn (path : String)
  /-- The key was loaded, but nothing could be signed with it. -/
  | unsigned
deriving DecidableEq, Repr, Inhabited

namespace KeyFault

/-- The wording of the fault. -/
def message : KeyFault → String
  | foreign algorithm => "invalid proof key: not a " ++ algorithm ++ " PKCS#8 key"
  | absent => "invalid proof key: no PKCS#8 private key found"
  | absentIn path => "invalid proof key: no PKCS#8 private key in " ++ path
  | unsigned => "failed to sign proof: InvalidEcdsaKey"

end KeyFault

/-- Why a file could not be read. -/
inductive FileFault where
  | notFound
  | notPermitted
  /-- The path leads through a file. -/
  | notDirectory
  | isDirectory
  | nameTooLong
  /-- The content is not what the file should hold. -/
  | malformed
deriving DecidableEq, Repr, Inhabited

namespace FileFault

/-- The wording of the fault; nothing is said of a malformed document. -/
def message? : FileFault → Option String
  | notFound => some "No such file or directory (os error 2)"
  | notPermitted => some "Permission denied (os error 13)"
  | notDirectory => some "Not a directory (os error 20)"
  | isDirectory => some "Is a directory (os error 21)"
  | nameTooLong => some "File name too long (os error 36)"
  | malformed => none

/-- The wording of the fault, with the separator in front. -/
def suffix (f : FileFault) : String := (f.message?.map (": " ++ ·)).getD ""

/-- Whether there is no file at a path. -/
def isAbsence : FileFault → Bool
  | notFound | notDirectory | nameTooLong => true
  | _ => false

end FileFault

/-- Failures to make a proof of possession. -/
inductive ProofError where
  | unsupportedAlgorithm (name : String)
  | unknownThumbprint (thumbprint : String)
  | unbound
  | invalidKey (fault : KeyFault)
  | unreadable (path : String) (fault : FileFault)
deriving DecidableEq, Repr, Inhabited

namespace ProofError

/-- A proof could not be signed. -/
@[match_pattern] abbrev signing : ProofError := .invalidKey .unsigned

/-- The wording of the failure. -/
def message : ProofError → String
  | unsupportedAlgorithm name => "unsupported proof algorithm: " ++ name
  | unknownThumbprint thumbprint => "no proof key configured for thumbprint " ++ thumbprint
  | unbound => "DPoP credential is not bound to a proof key"
  | invalidKey fault => fault.message
  | unreadable path fault => "failed to read key file " ++ path ++ fault.suffix

end ProofError

/-- Why a signed token is refused. -/
inductive TokenError where
  | notThreeParts
  | badBase64
  | badJson
  | wrongAlgorithm
  | wrongSignature
  | missingClaim (name : String)
  | expired
  | wrongAudience
deriving DecidableEq, Repr, Inhabited

namespace TokenError

/-- The wording of the refusal. -/
def message : TokenError → String
  | notThreeParts => "InvalidToken"
  | badBase64 => "Base64 error"
  | badJson => "JSON error"
  | wrongAlgorithm => "InvalidAlgorithm"
  | wrongSignature => "InvalidSignature"
  | missingClaim name => "Missing required claim: " ++ name
  | expired => "ExpiredSignature"
  | wrongAudience => "InvalidAudience"

end TokenError

/-- Why a credential is not acceptable. -/
inductive CredentialFault where
  | malformedToken (cause : TokenError)
  | unverifiedToken (cause : TokenError)
  | graceTooLong (seconds limit : Nat)
  | issuerNotUrl (cause : UrlError)
  | expOutOfRange
  | lifetimeOutOfRange (seconds : Nat)
  | keysNotFetched (location : String) (status : Nat)
  | keysMalformed (location : String)
  | noMatchingKey (location : String)
  | unusableKey (cause : TokenError)
  | other (reason : String)
deriving DecidableEq, Repr, Inhabited

namespace CredentialFault

def message : CredentialFault → String
  | malformedToken cause => "malformed ID token: " ++ cause.message
  | unverifiedToken cause => "unable to verify ID token: " ++ cause.message
  | graceTooLong seconds limit =>
    "exp grace period of " ++ toString seconds ++ "s exceeds " ++ toString limit ++ "s"
  | issuerNotUrl cause => "issuer is not a URL: " ++ cause.message
  | expOutOfRange => "exp is out of range"
  | lifetimeOutOfRange seconds => "token lifetime out of range: " ++ toString seconds
  | keysNotFetched location status =>
    "unable to fetch signing keys from " ++ location ++ ": HTTP " ++ toString status
  | keysMalformed location => "invalid JWKS at " ++ location
  | noMatchingKey location => "no matching signing key at " ++ location
  | unusableKey cause => "unusable signing key: " ++ cause.message
  | other reason => reason

end CredentialFault

/-- Why a discovery document cannot be used. -/
inductive DiscoveryFault where
  | status (code : Nat)
  | malformed
deriving DecidableEq, Repr, Inhabited

namespace DiscoveryFault

def message : DiscoveryFault → String
  | status code => "unexpected response code " ++ toString code
  | malformed => "invalid JSON"

end DiscoveryFault

/-- Failures of a ticket exchange. -/
inductive UmaError where
  | discovery (server : String) (fault : DiscoveryFault)
  | unexpectedStatus (status : Nat) (body : String)
  | requestDenied (description : String)
  | invalidGrant (description : String)
  | invalidScope (description : String)
  | needInfo (reason : String)
  | maxIterations (limit : Nat)
  | invalidChallenge (reason : String)
  | malformedAnswer
  | transport (cause : TransportError)
  | proof (cause : ProofError)
deriving DecidableEq, Repr, Inhabited

namespace UmaError

/-- The wording of the failure. -/
def message : UmaError → String
  | discovery server fault => "UMA discovery failed for " ++ server ++ ": " ++ fault.message
  | unexpectedStatus status _ =>
    "unexpected response during token negotiation: HTTP " ++ toString status
  | requestDenied description => "request denied: " ++ description
  | invalidGrant description => "invalid grant: " ++ description
  | invalidScope description => "invalid scope: " ++ description
  | needInfo reason => "invalid need_info response: " ++ reason
  | maxIterations limit =>
    "claim gathering exceeded the configured maximum of " ++ toString limit ++ " iterations"
  | invalidChallenge reason => "invalid UMA challenge: " ++ reason
  | malformedAnswer => "invalid JSON from authorization server"
  | transport cause => cause.message
  | proof cause => cause.message

end UmaError

/-- Failures of authentication. -/
inductive AuthError where
  | negotiation (reason : String)
  | invalidChallenge (reason : String)
  | invalidCredential (fault : CredentialFault)
  | refresh (reason : String)
  | uma (cause : UmaError)
  | proof (cause : ProofError)
  | transport (cause : TransportError)
deriving DecidableEq, Repr, Inhabited

namespace AuthError

/-- The wording of the failure. -/
def message : AuthError → String
  | negotiation reason => "negotiation failed: " ++ reason
  | invalidChallenge reason => "invalid authentication challenge: " ++ reason
  | invalidCredential fault => "invalid credential: " ++ fault.message
  | refresh reason => "credential refresh failed: " ++ reason
  | uma cause => "UMA error: " ++ cause.message
  | proof cause => "proof error: " ++ cause.message
  | transport cause => "transport error: " ++ cause.message

end AuthError

/-- Why settings cannot be used. -/
inductive SettingsFault where
  /-- The settings file could not be read. -/
  | unreadable (fault : FileFault)
  /-- The settings file is no text. -/
  | noText
  /-- The settings file is no settings document. -/
  | malformed
  /-- A configured proof key cannot be used. -/
  | proofKey (algorithm : String) (cause : ProofError)
deriving DecidableEq, Repr, Inhabited

namespace SettingsFault

def message : SettingsFault → String
  | unreadable fault => "Failed to read config" ++ fault.suffix
  | noText => "Failed to read config: stream did not contain valid UTF-8"
  | malformed => "Invalid config TOML"
  | proofKey algorithm cause => "proof_key_pairs." ++ algorithm ++ ": " ++ cause.message

end SettingsFault

/-- Why arguments cannot be used. -/
inductive ArgumentFault where
  | targetCount
  | method (text : String)
  | headerForm (text : String)
  | headerName (text : String)
  | headerValue (name : String)
  | keyForm (text : String)
  | keyPath (algorithm : String)
deriving DecidableEq, Repr, Inhabited

namespace ArgumentFault

open Text in
def message : ArgumentFault → String
  | targetCount => "expected [METHOD] URL"
  | method text => "invalid HTTP method: " ++ text
  | headerForm text => "header must be NAME: VALUE, got " ++ quote text
  | headerName text => "invalid header name " ++ quote text ++ ": invalid HTTP header name"
  | headerValue name => "invalid value for " ++ name ++ ": failed to parse header value"
  | keyForm text => "DPoP key must be ALG=PEM, got " ++ quote text
  | keyPath algorithm => "missing key path for " ++ algorithm

end ArgumentFault

/-- What is reported to the user of the client or of the command. -/
inductive Failure where
  | transport (cause : TransportError)
  | auth (cause : AuthError)
  | proof (cause : ProofError)
  | url (cause : UrlError)
  | settings (fault : SettingsFault)
  | argument (fault : ArgumentFault)
deriving DecidableEq, Repr, Inhabited

namespace Failure

/-- The wording of the report. -/
def message : Failure → String
  | transport cause => "Transport error: " ++ cause.message
  | auth cause => "Authentication error: " ++ cause.message
  | proof cause => "Proof error: " ++ cause.message
  | url cause => "URL parse error: " ++ cause.message
  | settings fault => "Config error: " ++ fault.message
  | argument fault => "Invalid argument: " ++ fault.message

end Failure

/-! ## Results that can fail -/

section

variable {ε δ α β : Type}

theorem bind_eq_ok {x : Except ε α} {f : α → Except ε β} {b : β} :
    (x >>= f) = .ok b ↔ ∃ a, x = .ok a ∧ f a = .ok b := by
  cases x with
  | error e => simp [bind, Except.bind]
  | ok a => simp [bind, Except.bind]

/-- Behind a check that did not refuse the program goes on. -/
theorem of_refusal {c : Prop} [Decidable c] {e : ε} {next : Unit → Except ε α} {a : α}
    (h : (if c then throw e >>= next else next ()) = .ok a) : next () = .ok a := by
  split at h
  · cases h
  · exact h

/-- Whichever of two ways is taken, the program goes on with what it gives. -/
theorem of_either {c : Prop} [Decidable c] {x y : Except ε α} {next : α → Except ε β} {b : β}
    (h : (if c then x >>= next else y >>= next) = .ok b) : ∃ a, next a = .ok b := by
  split at h
  · rcases bind_eq_ok.1 h with ⟨a, -, hnext⟩
    exact ⟨a, hnext⟩
  · rcases bind_eq_ok.1 h with ⟨a, -, hnext⟩
    exact ⟨a, hnext⟩

theorem mapError_eq_ok {f : ε → δ} {x : Except ε α} {a : α} :
    x.mapError f = .ok a ↔ x = .ok a := by
  cases x with
  | error e =>
      constructor
      · intro h
        cases h
      · intro h
        cases h
  | ok b =>
      constructor
      · intro h
        cases h
        rfl
      · intro h
        cases h
        rfl

theorem mapError_eq_error {f : ε → δ} {x : Except ε α} {d : δ} :
    x.mapError f = .error d ↔ ∃ e, x = .error e ∧ f e = d := by
  cases x with
  | error e =>
      constructor
      · intro h
        cases h
        exact ⟨e, rfl, rfl⟩
      · rintro ⟨e', he, rfl⟩
        cases he
        rfl
  | ok a =>
      constructor
      · intro h
        cases h
      · rintro ⟨e', he, _⟩
        cases he

end

end Countersign
