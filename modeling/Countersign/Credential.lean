import Countersign.Instant
import Countersign.Text.Ascii
import Countersign.Text.Quoted
import Countersign.Url.Basic

/-!
# Credentials

A credential is a token with all that is needed to present it.  It is live strictly before its
expiration.

* `Credential` — the value;
* `Credential.isExpiredAt` — the only notion of expiry, without any tolerance;
* `Credential.authorization` — the text of the `Authorization` header;
* `Credential.redacted` — a form for logs, which hides the token.
-/

namespace Countersign

open Text

/-- The scheme of tokens that whoever holds them may use. -/
def bearer : String := "Bearer"

/-- The scheme of tokens that are bound to a proof key. -/
def dpop : String := "DPoP"

/-- The scheme of ticket-based negotiation. -/
def uma : String := "UMA"

/-- A token together with everything needed to present it. -/
structure Credential where
  scheme : String
  issuer : Url
  token : String
  expiration : Instant
  /-- Whom the token speaks for. -/
  principal : Option Url := none
  /-- The thumbprint of the proof key that the token is bound to. -/
  thumbprint : Option String := none
deriving DecidableEq, Repr, Inhabited

namespace Credential

/-- Whether every use needs a proof of possession. -/
def isDpop (c : Credential) : Bool := sameLetters c.scheme dpop

/-- A credential is expired from the moment of its expiration on. -/
def isExpiredAt (c : Credential) (now : Instant) : Bool := c.expiration.le now

/-- The credential if it is live. -/
def liveAt (now : Instant) (c : Option Credential) : Option Credential :=
  c.filter fun c => !c.isExpiredAt now

/-- The text of the `Authorization` header. -/
def authorization (c : Credential) : String := c.scheme ++ " " ++ c.token

/-- A form for logs that hides the token. -/
def redacted (c : Credential) : String :=
  "Credential \x7b scheme: " ++ quote c.scheme ++ ", issuer: " ++ quote c.issuer.toString ++
    ", token: \"[redacted]\", expiration: " ++ c.expiration.display ++ ", principal: " ++
    quoteOption (c.principal.map Url.toString) ++ ", proof_thumbprint: " ++
    quoteOption c.thumbprint ++ " \x7d"

theorem isExpiredAt_mono {c : Credential} {now later : Instant} (hle : now.le later = true)
    (h : c.isExpiredAt now = true) : c.isExpiredAt later = true :=
  Instant.le_trans h hle

theorem liveAt_some (now : Instant) (c : Credential) :
    liveAt now (some c) = if c.isExpiredAt now then none else some c := by
  unfold liveAt
  cases h : c.isExpiredAt now with
  | true => simp [Option.filter, h]
  | false => simp [Option.filter, h]

theorem liveAt_eq_some {now : Instant} {o : Option Credential} {c : Credential} :
    liveAt now o = some c ↔ o = some c ∧ c.isExpiredAt now = false := by
  simp [liveAt, Option.filter_eq_some_iff]

end Credential
end Countersign
