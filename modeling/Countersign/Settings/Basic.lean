import Countersign.Negotiation.Registry
import Countersign.Toml.Reader

/-!
# Settings

Settings are one document with a section for each part of the client.  Sections and fields that are
absent have defaults, and unknown ones are passed over; a field of a wrong type spoils the document.

* `OpenIdSettings` — what is asked of identity tokens, as it is written;
* `Settings` — all settings;
* `Settings.parse?` — the settings that a document describes.
-/

namespace Countersign

open Toml

/-- What is asked of identity tokens, as it is written in the settings. -/
structure OpenIdSettings where
  audience : Option String := none
  keyLocation : Option Url := none
  grace : Nat := 0
  /-- The files of proof keys by the names of their algorithms. -/
  keyFiles : Table String := .empty
deriving DecidableEq, Repr, Inhabited

structure Settings where
  cache : CacheSettings := {}
  openId : OpenIdSettings := {}
  /-- How many rounds a ticket exchange may take. -/
  rounds : Nat := 5
  negotiation : NegotiationSettings := {}
deriving DecidableEq, Repr, Inhabited

namespace Settings

/-! ## Sections -/

/-- Reads the bounds of caches. -/
def cache? (section? : Toml) : Option CacheSettings := do
  let default : CacheSettings := {}
  match ← fields? ["max_entries", "ttl_secs"] section? with
  | [maxEntries, lifetime] =>
    pure {
      maxEntries := ← orElse? default.maxEntries natural? maxEntries
      lifetime := ← orElse? default.lifetime natural? lifetime }
  | _ => none

def url? (value : Toml) : Option Url := do (Url.parse (← text? value)).toOption

/-- Reads what is asked of identity tokens. -/
def openId? (section? : Toml) : Option OpenIdSettings := do
  match ← fields? ["expected_audience", "public_key_location", "exp_grace_period_secs",
      "proof_key_pairs"] section? with
  | [audience, keyLocation, grace, keyFiles] =>
    pure {
      audience := ← orElse? none (fun v => (text? v).map some) audience
      keyLocation := ← orElse? none (fun v => (url? v).map some) keyLocation
      grace := ← orElse? 0 natural? grace
      keyFiles := ← orElse? .empty textTable? keyFiles }
  | _ => none

/-- Reads the number of rounds. -/
def rounds? (section? : Toml) : Option Nat := do
  match ← fields? ["max_iterations"] section? with
  | [rounds] => orElse? (Settings.rounds {}) natural? rounds
  | _ => none

/-- Reads prohibited schemes and the fallback. -/
def negotiation? (section? : Toml) : Option NegotiationSettings := do
  let default : NegotiationSettings := {}
  match ← fields? ["prohibited_schemes", "fallback_scheme"] section? with
  | [prohibited, fallback] =>
    pure {
      prohibited := ← orElse? default.prohibited textList? prohibited
      fallback := ← orElse? none (fun v => (text? v).map some) fallback }
  | _ => none

/-! ## The document -/

/-- Reads settings from a table. -/
def ofToml? (document : Toml) : Option Settings := do
  match ← fields? ["cache", "openid", "uma", "negotiation"] document with
  | [cache, openId, uma, negotiation] =>
    pure {
      cache := ← orElse? {} cache? cache
      openId := ← orElse? {} openId? openId
      rounds := ← orElse? (Settings.rounds {}) rounds? uma
      negotiation := ← orElse? {} negotiation? negotiation }
  | _ => none

def parse? (document : String) : Option Settings := Toml.parse? document >>= ofToml?

end Settings
end Countersign
