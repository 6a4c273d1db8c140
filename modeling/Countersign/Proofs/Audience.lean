import Countersign.Proofs.Walk
import Countersign.Token.IdToken
import Mathlib

/-!
# Audience — what an expected audience asks of a token

Settings can expect an audience, and the claim `aud` of a token is then to contain it.  A token is
refused, however, only for an audience that it names: a token without the claim, or with a claim that
is neither a text nor a list of texts, passes.

* `Token.payload?` — the payload of a token;
* `Token.audience?` — the audience that a token names;
* `IdToken.verify_audience_iff` — the tokens that pass with an expected audience.
-/

namespace Countersign

open Program

/-! ## The audience of a token -/

/-- The payload of a token. -/
def Token.payload? (token : String) : Option Json := do
  let parts ← Token.split? token
  let octets ← Base64.decodeUrl? parts.payload
  Json.parse? octets

/-- The value of a field of an object. -/
def Json.field? (name : String) : Json → Option Json
  | .object fields => (fields.find? fun kv => kv.1 == some name).map Prod.snd
  | _ => none

/-- The audience that a token names: its claim `aud`, if that is a text or a list of texts. -/
def Token.audience? (token : String) : Option (List String) :=
  ((Token.payload? token).bind (Json.field? "aud")).bind LimitClaims.audienceOf

/-- Whether a token names its audience in a form that can be compared. -/
def Token.Addressed (token : String) : Prop := ∃ l, Token.audience? token = some l

/-- Whether a token names an audience: as the claim itself, or among the texts of the claim. -/
def Token.Names (token a : String) : Prop := ∃ l, Token.audience? token = some l ∧ a ∈ l

theorem Json.string?_eq_some {j : Json} {s : String} : j.string? = some s ↔ j = .text (some s) := by
  cases j with
  | text o => simp [Json.string?]
  | _ => simp [Json.string?]

theorem mapM_string? {items : List Json} {l : List String} :
    items.mapM Json.string? = some l ↔ items = l.map Json.string := by
  induction items generalizing l with
  | nil =>
      cases l with
      | nil => simp
      | cons s l => simp
  | cons j items ih =>
      cases l with
      | nil => simp [Option.bind_eq_some_iff]
      | cons s l => simp [Option.bind_eq_some_iff, Json.string?_eq_some, ih, Json.string]

/-- An audience is written as one text or as a list of texts. -/
theorem LimitClaims.audienceOf_eq_some {j : Json} {l : List String} :
    LimitClaims.audienceOf j = some l ↔
      (∃ a, j = Json.string a ∧ l = [a]) ∨ j = .list (l.map Json.string) := by
  cases j with
  | text o =>
      cases o with
      | none => simp [LimitClaims.audienceOf, Json.string]
      | some s => simp [LimitClaims.audienceOf, Json.string, eq_comm]
  | list items => simp [LimitClaims.audienceOf, mapM_string?, Json.string]
  | _ => simp [LimitClaims.audienceOf, Json.string]

/-! ## The limits of a token -/

/-- A token that is not late has an expiration, and not more than the tolerance ago. -/
theorem LimitClaims.check_eq_ok {c : LimitClaims} {expected : Option String} {tolerance : Nat}
    {now : Instant} :
    c.check expected tolerance now = .ok () ↔
      (∃ e : Nat, c.expiration = some e ∧ now.seconds ≤ (e : Int) + tolerance) ∧
        ∀ a, expected = some a → ∀ l, c.audience = some l → a ∈ l := by
  unfold LimitClaims.check
  cases hexpiration : c.expiration with
  | none => simp
  | some e =>
      dsimp only
      by_cases hlate : (e : Int) < now.seconds - tolerance
      · have hnot : ¬ now.seconds ≤ (e : Int) + tolerance := by omega
        simp [hlate, hnot]
      · have hin : now.seconds ≤ (e : Int) + tolerance := by omega
        rcases expected with _ | a
        · simp [hlate, hin]
        · rcases c.audience with _ | l
          · simp [hlate, hin]
          · by_cases hmem : a ∈ l
            · simp [hlate, hin, hmem]
            · simp [hlate, hmem]

/-- An expected audience adds one condition to the limits. -/
theorem LimitClaims.check_audience {c : LimitClaims} {a : String} {tolerance : Nat}
    {now : Instant} :
    c.check (some a) tolerance now = .ok () ↔
      c.check none tolerance now = .ok () ∧ ∀ l, c.audience = some l → a ∈ l := by
  rw [LimitClaims.check_eq_ok, LimitClaims.check_eq_ok]
  simp

/-- Without an expiration a token does not pass. -/
theorem LimitClaims.expiration_of_check {c : LimitClaims} {expected : Option String}
    {tolerance : Nat} {now : Instant} (h : c.check expected tolerance now = .ok ()) :
    c.expiration ≠ none := by
  rcases LimitClaims.check_eq_ok.1 h with ⟨⟨e, he, _⟩, _⟩
  simp [he]

/-- The fields of a record that is an object are the fields of the object. -/
theorem Json.record?_object {spec : List Field} {fields : List (Option String × Json)}
    {values : List (Option Json)} (h : Json.record? spec (.object fields) = some values) :
    values = spec.map fun f => Json.field? f.name (.object fields) := by
  unfold Json.record? at h
  dsimp only at h
  cases hkeys : Json.keys? fields with
  | none =>
      rw [hkeys] at h
      cases h
  | some keys =>
      rw [hkeys] at h
      dsimp only at h
      split at h
      · exact (Option.some.inj h).symm
      · cases h

/-- The first field of a record that is a list is the first item of the list. -/
theorem Json.record?_list {spec : List Field} {items : List Json} {value : Option Json}
    {values : List (Option Json)} (h : Json.record? spec (.list items) = some (value :: values)) :
    value = items.head? := by
  unfold Json.record? at h
  dsimp only at h
  split at h
  · cases items with
    | nil =>
        -- every field of the record has its default
        have hmem : value ∈ List.replicate (spec.length - 0) none := by
          have hlist : List.replicate (spec.length - 0) none = value :: values := Option.some.inj h
          rw [hlist]
          exact .head _
        exact List.eq_of_mem_replicate hmem
    | cons j items => exact (List.cons.inj (Option.some.inj h)).1.symm
  · cases h

/-- A list of claims starts with the name of the issuer. -/
theorem IdentityClaims.head_of_list {items : List Json} {c : IdentityClaims}
    (h : IdentityClaims.ofJson? (.list items) = some c) :
    ∃ s, items.head? = some (.text (some s)) := by
  unfold IdentityClaims.ofJson? at h
  rcases Option.bind_eq_some_iff.1 h with ⟨values, hvalues, hrest⟩
  split at hrest
  · rcases Option.bind_eq_some_iff.1 hrest with ⟨s, hs, _⟩
    rw [Json.record?_list hvalues] at hs
    -- the name is demanded, so there is an item, and that is a text
    cases hhead : items.head? with
    | none =>
        rw [hhead] at hs
        cases hs
    | some j =>
        rw [hhead] at hs
        exact ⟨s, congrArg some (Json.string?_eq_some.1 hs)⟩
  · cases hrest

/-- A list of limits starts with the second of expiration. -/
theorem LimitClaims.head_of_list {items : List Json} {limits : LimitClaims}
    (h : LimitClaims.ofJson? (.list items) = some limits) :
    limits.expiration = items.head?.bind Json.natural? := by
  unfold LimitClaims.ofJson? at h
  rcases Option.bind_eq_some_iff.1 h with ⟨values, hvalues, hrest⟩
  split at hrest
  · split at hrest
    · cases hrest
    · rw [← Option.some.inj hrest, ← Json.record?_list hvalues]
  · cases hrest

/-- A field that has to be there has a value that can be read. -/
theorem Json.bind_of_required? {α : Type} {read : Json → Option α} {o : Option Json} {x : α}
    (h : Json.required? read o = some x) : o.bind read = some x := by
  cases o with
  | none => cases h
  | some j => exact h

/-- The identity in an object is read off its fields. -/
theorem IdentityClaims.read_of_object {fields : List (Option String × Json)} {c : IdentityClaims}
    (h : IdentityClaims.ofJson? (.object fields) = some c) :
    (Json.field? "iss" (.object fields)).bind Json.string? = some c.issuer ∧
      (Json.field? "sub" (.object fields)).bind Json.string? = some c.subject ∧
      (Json.field? "exp" (.object fields)).bind Json.integer? = some c.expiration ∧
      Json.optional? Json.string? (Json.field? "webid" (.object fields)) = some c.webid ∧
      ∃ bound, Json.optional? confirmation? (Json.field? "cnf" (.object fields)) = some bound ∧
        c.thumbprint = bound.join := by
  unfold IdentityClaims.ofJson? at h
  rcases Option.bind_eq_some_iff.1 h with ⟨values, hvalues, hrest⟩
  rw [Json.record?_object hvalues] at hrest
  simp only [List.map, Json.Field.loose, Json.Field.firm, Option.bind_eq_bind,
    Option.bind_eq_some_iff] at hrest
  rcases hrest with
    ⟨issuer, hissuer, subject, hsubject, expiration, hexpiration, _, _, webid, hwebid, bound, hbound, hc⟩
  cases hc
  exact ⟨Json.bind_of_required? hissuer, Json.bind_of_required? hsubject,
    Json.bind_of_required? hexpiration, hwebid, bound, hbound, rfl⟩

/-- The limits in an object are read off its fields. -/
theorem LimitClaims.read_of_object {fields : List (Option String × Json)} {limits : LimitClaims}
    (h : LimitClaims.ofJson? (.object fields) = some limits) :
    limits.expiration = (Json.field? "exp" (.object fields)).bind Json.natural? ∧
      limits.audience = (Json.field? "aud" (.object fields)).bind LimitClaims.audienceOf := by
  unfold LimitClaims.ofJson? at h
  rcases Option.bind_eq_some_iff.1 h with ⟨values, hvalues, hrest⟩
  rw [Json.record?_object hvalues] at hrest
  dsimp only [List.map, Json.Field.loose, Json.Field.firm] at hrest
  split at hrest
  · cases hrest
  · rw [← Option.some.inj hrest]
    exact ⟨rfl, rfl⟩

/-- Claims that name an expiration are an object, because the first item of a list would be a text for one
reading and a number for the other. -/
theorem LimitClaims.exists_fields {j : Json} {c : IdentityClaims} {limits : LimitClaims}
    (hidentity : IdentityClaims.ofJson? j = some c) (hlimits : LimitClaims.ofJson? j = some limits)
    (hexpiration : limits.expiration ≠ none) : ∃ fields, j = .object fields := by
  cases j with
  | object fields => exact ⟨fields, rfl⟩
  | list items =>
      rcases IdentityClaims.head_of_list hidentity with ⟨s, hs⟩
      rw [LimitClaims.head_of_list hlimits, hs] at hexpiration
      exact absurd rfl hexpiration
  | _ => cases hlimits

/-! ## Passing tokens -/

namespace IdToken

/-- What the payload of a token says. -/
theorem payload_of_read {token : String} {parts : Token.Parts} {c : IdentityClaims}
    {limits : LimitClaims} (hparts : Token.split? token = some parts)
    (hread : (match Base64.decodeUrl? parts.payload with
      | none => throw .badBase64
      | some octets =>
        match Json.parse? octets with
        | none => throw .badJson
        | some j =>
          match IdentityClaims.ofJson? j, LimitClaims.ofJson? j with
          | some identity, some limits => pure (identity, limits)
          | _, _ => throw .badJson : Except TokenError (IdentityClaims × LimitClaims)) =
      .ok (c, limits)) :
    ∃ j, Token.payload? token = some j ∧ IdentityClaims.ofJson? j = some c ∧
      LimitClaims.ofJson? j = some limits := by
  cases hoctets : Base64.decodeUrl? parts.payload with
  | none =>
      rw [hoctets] at hread
      cases hread
  | some octets =>
      rw [hoctets] at hread
      dsimp only at hread
      cases hj : Json.parse? octets with
      | none =>
          rw [hj] at hread
          cases hread
      | some j =>
          rw [hj] at hread
          dsimp only at hread
          split at hread
          · rename_i identity limits' hidentity hlimits
            cases hread
            refine ⟨j, ?_, hidentity, hlimits⟩
            simp [Token.payload?, hparts, hoctets, hj]
          · cases hread

/-- The claims of a token are read from its payload, whatever key checks its signature. -/
theorem payload_of_claims {token : String} {h : TokenHeader} {key : Option VerificationKey}
    {c : IdentityClaims} {limits : LimitClaims} (hclaims : claims token h key = .ok (c, limits)) :
    ∃ j, Token.payload? token = some j ∧ IdentityClaims.ofJson? j = some c ∧
      LimitClaims.ofJson? j = some limits := by
  unfold claims at hclaims
  cases hparts : Token.split? token with
  | none =>
      rw [hparts] at hclaims
      cases hclaims
  | some parts =>
      rw [hparts] at hclaims
      dsimp only at hclaims
      -- a key adds a check of the signature and changes nothing else
      cases key with
      | none => exact payload_of_read hparts hclaims
      | some k =>
          dsimp only at hclaims
          split at hclaims
          · cases hclaims
          · cases hsignature : Token.checkSignature h.algorithm k
                (Token.signed parts.header parts.payload) parts.signature with
            | error e =>
                rw [hsignature] at hclaims
                cases hclaims
            | ok _ =>
                rw [hsignature] at hclaims
                exact payload_of_read hparts hclaims

/-- Without a key the claims are what the payload says. -/
theorem claims_of_payload {token : String} {h : TokenHeader} {j : Json} {c : IdentityClaims}
    {limits : LimitClaims} (hj : Token.payload? token = some j)
    (hidentity : IdentityClaims.ofJson? j = some c) (hlimits : LimitClaims.ofJson? j = some limits) :
    claims token h none = .ok (c, limits) := by
  rcases Option.bind_eq_some_iff.1 hj with ⟨parts, hparts, hrest⟩
  rcases Option.bind_eq_some_iff.1 hrest with ⟨octets, hoctets, hparse⟩
  unfold claims
  rw [hparts]
  dsimp only
  rw [hoctets]
  dsimp only
  rw [hparse]
  dsimp only
  rw [hidentity, hlimits]
  rfl

/-- The claims of a token with an expiration are the fields of an object. -/
theorem fields_of_claims {token : String} {h : TokenHeader} {key : Option VerificationKey}
    {c : IdentityClaims} {limits : LimitClaims} (hclaims : claims token h key = .ok (c, limits))
    (hexpiration : limits.expiration ≠ none) :
    ∃ fields, Token.payload? token = some (.object fields) ∧
      IdentityClaims.ofJson? (.object fields) = some c ∧
      LimitClaims.ofJson? (.object fields) = some limits := by
  rcases payload_of_claims hclaims with ⟨j, hj, hidentity, hlimits⟩
  rcases LimitClaims.exists_fields hidentity hlimits hexpiration with ⟨fields, rfl⟩
  exact ⟨fields, hj, hidentity, hlimits⟩

/-- The limits of a token with an expiration have the audience that the token names. -/
theorem audience_of_claims {token : String} {h : TokenHeader} {key : Option VerificationKey}
    {c : IdentityClaims} {limits : LimitClaims} (hclaims : claims token h key = .ok (c, limits))
    (hexpiration : limits.expiration ≠ none) : limits.audience = Token.audience? token := by
  rcases fields_of_claims hclaims hexpiration with ⟨fields, hj, _, hlimits⟩
  rw [(LimitClaims.read_of_object hlimits).2, Token.audience?, hj]
  rfl

/-- What it takes for a token to pass, and what it gives. -/
theorem accept_eq_ok {settings : VerificationSettings} {token : String} {h : TokenHeader}
    {key : Option VerificationKey} {now : Instant} {v : VerifiedToken} :
    accept settings token h key now = .ok v ↔
      ∃ c limits issuer expiration, claims token h key = .ok (c, limits) ∧
        limits.check settings.audience settings.grace now = .ok () ∧
        Url.parse c.issuer = .ok issuer ∧ expirationOf c settings.grace = some expiration ∧
        v = ⟨credentialOf token c issuer expiration, sessionOf c⟩ := by
  unfold accept
  simp only [bind_eq_ok, mapError_eq_ok, Prod.exists]
  constructor
  · rintro ⟨c, limits, hclaims, ⟨⟩, hcheck, issuer, hissuer, hrest⟩
    cases hexpiration : expirationOf c settings.grace with
    | none =>
        rw [hexpiration] at hrest
        cases hrest
    | some expiration =>
        rw [hexpiration] at hrest
        cases hrest
        exact ⟨c, limits, issuer, expiration, hclaims, hcheck, hissuer, hexpiration, rfl⟩
  · rintro ⟨c, limits, issuer, expiration, hclaims, hcheck, hissuer, hexpiration, rfl⟩
    refine ⟨c, limits, hclaims, (), hcheck, issuer, hissuer, ?_⟩
    rw [hexpiration]
    rfl

/-- An expected audience adds one condition to the acceptance of a token. -/
theorem accept_audience {settings : VerificationSettings} {a token : String} {h : TokenHeader}
    {key : Option VerificationKey} {now : Instant} {v : VerifiedToken} :
    accept { settings with audience := some a } token h key now = .ok v ↔
      accept { settings with audience := none } token h key now = .ok v ∧
        ∀ l, Token.audience? token = some l → a ∈ l := by
  rw [accept_eq_ok, accept_eq_ok]
  constructor
  · rintro ⟨c, limits, issuer, expiration, hclaims, hcheck, hrest⟩
    rcases LimitClaims.check_audience.1 hcheck with ⟨hnone, hmem⟩
    rw [audience_of_claims hclaims (LimitClaims.expiration_of_check hnone)] at hmem
    exact ⟨⟨c, limits, issuer, expiration, hclaims, hnone, hrest⟩, hmem⟩
  · rintro ⟨⟨c, limits, issuer, expiration, hclaims, hnone, hrest⟩, hmem⟩
    rw [← audience_of_claims hclaims (LimitClaims.expiration_of_check hnone)] at hmem
    exact ⟨c, limits, issuer, expiration, hclaims, LimitClaims.check_audience.2 ⟨hnone, hmem⟩, hrest⟩

/-! ## Verification -/

variable {σ : Type} (settings : VerificationSettings) (answer : (op : World.Op) → σ → World.Answer op × σ)

theorem judge_audience {a token : String} {h : TokenHeader} {key : Option VerificationKey} {s s' : σ}
    {v : VerifiedToken} :
    (judge { settings with audience := some a } token h key).run answer s = (.ok v, s') ↔
      (judge { settings with audience := none } token h key).run answer s = (.ok v, s') ∧
        ∀ l, Token.audience? token = some l → a ∈ l := by
  have hrun : ∀ settings' : VerificationSettings,
      (judge settings' token h key).run answer s = (.ok v, s') ↔
        accept settings' token h key (answer .clock s).1 = .ok v ∧ (answer .clock s).2 = s' := by
    intro settings'
    rw [← mapError_eq_ok (f := AuthError.invalidCredential), ← Prod.mk.injEq]
    rfl
  rw [hrun, hrun, accept_audience]
  constructor
  · rintro ⟨⟨hnone, hmem⟩, hs⟩
    exact ⟨⟨hnone, hs⟩, hmem⟩
  · rintro ⟨⟨hnone, hs⟩, hmem⟩
    exact ⟨⟨hnone, hmem⟩, hs⟩

/-- The clock alone decides what a program that knows the key makes of a token. -/
theorem alone_judge (o : Outside σ) (token : String) (h : TokenHeader)
    (key : Option VerificationKey) (sw : Store × σ) :
    ((judge settings token h key).alone o sw).1 =
      (accept settings token h key (o.clock sw.2)).mapError .invalidCredential := rfl

/-- With an expected audience the tokens pass that pass without, if they name it or if they name no
audience in a form that can be compared. -/
theorem verify_audience_iff {a token : String} {s s' : σ} {v : VerifiedToken} :
    (verify { settings with audience := some a } token).run answer s = (.ok v, s') ↔
      (verify { settings with audience := none } token).run answer s = (.ok v, s') ∧
        (Token.Names token a ∨ ¬ Token.Addressed token) := by
  have hnames : (∀ l, Token.audience? token = some l → a ∈ l) ↔
      (Token.Names token a ∨ ¬ Token.Addressed token) := by
    cases haudience : Token.audience? token with
    | none => simp [Token.Names, Token.Addressed, haudience]
    | some l => simp [Token.Names, Token.Addressed, haudience]
  rw [← hnames]
  have hheader : ∀ expected,
      header { settings with audience := expected } token = header settings token := fun _ => rfl
  unfold verify
  rw [hheader (some a), hheader none]
  -- neither the header nor the key depends on what is expected
  cases header settings token with
  | error fault => simp [run]
  | ok h =>
      cases settings.keyLocation with
      | none => exact judge_audience settings answer
      | some location =>
          simp only [bind_eq_bind, run_bind]
          cases hkey : ((fetchKey location h.keyIdentifier).run answer s).1 with
          | error e => simp [run]
          | ok key => exact judge_audience settings answer

/-- A token of the issuer `urn:i` for the subject `a` that names no audience. -/
def unaddressed : String :=
  "eyJhbGciOiJIUzI1NiJ9." ++
  "eyJpc3MiOiJ1cm46aSIsInN1YiI6ImEiLCJpYXQiOjAsImV4cCI6NDEwMjQ0NDgwMH0." ++
  "BvSu1I2WljpX8tW67ha5dWVLBPSN8oAj5BWT_q5RlOs"

/-- What the token says. -/
def unaddressedPayload : Json :=
  .ofFields [("iss", .string "urn:i"), ("sub", .string "a"), ("iat", .integer 0),
    ("exp", .integer 4102444800)]

/-- Whom the token speaks for. -/
def unaddressedIdentity : IdentityClaims :=
  { issuer := "urn:i", subject := "a", expiration := 4102444800 }

theorem payload_unaddressed : Token.payload? unaddressed = some unaddressedPayload := by cbv

/-- What the token gives. -/
def unaddressedVerified : VerifiedToken :=
  ⟨credentialOf unaddressed unaddressedIdentity { scheme := "urn", path := "i" } ⟨4102444800, 0⟩,
    sessionOf unaddressedIdentity⟩

/-- The token passes up to the second in which it expires. -/
theorem accept_unaddressed {now : Instant} (hnow : now.seconds ≤ 4102444800) :
    accept {} unaddressed ⟨.hs256, none, none, none⟩ none now = .ok unaddressedVerified := by
  have hclaims : claims unaddressed ⟨.hs256, none, none, none⟩ none =
      .ok (unaddressedIdentity, { expiration := some 4102444800 }) :=
    claims_of_payload payload_unaddressed (by decide +kernel) (by decide +kernel)
  have hcheck : ({ expiration := some 4102444800 } : LimitClaims).check none 0 now = .ok () := by
    have hnot : ¬ (4102444800 : Int) < now.seconds := by omega
    simp [LimitClaims.check, hnot]
  have hissuer : Url.parse "urn:i" = .ok { scheme := "urn", path := "i" } := by cbv
  have hexpiration : expirationOf unaddressedIdentity 0 = some ⟨4102444800, 0⟩ := by
    decide +kernel
  exact accept_eq_ok.2 ⟨_, _, _, _, hclaims, hcheck, hissuer, hexpiration, rfl⟩

/-- An outside that answers nothing and in which time stands still. -/
def silence : Outside Unit where
  transmit _ w := (.error (.request ""), w)
  clock _ := ⟨0, 0⟩
  entropy _ w := ([], w)
  freshToken _ w := (.error (.refresh ""), w)
  note _ w := w
  fileAt _ _ := .error .notFound

/-- The token passes although an audience is expected that it does not name. -/
theorem unaddressed_passes :
    (∃ v, ((verify { audience := some "solid" } unaddressed).alone silence ({}, ())).1 = .ok v) ∧
      ¬ Token.Names unaddressed "solid" := by
  have haudience : Token.audience? unaddressed = none := by
    rw [Token.audience?, payload_unaddressed]
    rfl
  have hheader : header { audience := some "solid" } unaddressed =
      .ok ⟨.hs256, none, none, none⟩ := by cbv
  refine ⟨?_, ?_⟩
  · have hclaims : claims unaddressed ⟨.hs256, none, none, none⟩ none =
        .ok (unaddressedIdentity, { expiration := some 4102444800 }) :=
      claims_of_payload payload_unaddressed (by decide +kernel) (by decide +kernel)
    rcases hissuer : Url.parse "urn:i" with e | issuer
    · -- the issuer of the token is a URL
      have hok : (Url.parse "urn:i").isOk = true := by cbv
      rw [hissuer] at hok
      cases hok
    · have hexpiration : expirationOf unaddressedIdentity 0 = some ⟨4102444800, 0⟩ := by
        decide +kernel
      have hcheck : ({ expiration := some 4102444800 } : LimitClaims).check (some "solid") 0 ⟨0, 0⟩ =
          .ok () := by simp [LimitClaims.check]
      have haccept : accept { audience := some "solid" } unaddressed ⟨.hs256, none, none, none⟩ none
          ⟨0, 0⟩ = .ok ⟨credentialOf unaddressed unaddressedIdentity issuer ⟨4102444800, 0⟩,
            sessionOf unaddressedIdentity⟩ :=
        accept_eq_ok.2 ⟨_, _, issuer, _, hclaims, hcheck, hissuer, hexpiration, rfl⟩
      refine ⟨⟨credentialOf unaddressed unaddressedIdentity issuer ⟨4102444800, 0⟩,
        sessionOf unaddressedIdentity⟩, ?_⟩
      unfold verify
      rw [hheader]
      dsimp only
      rw [alone_judge]
      exact mapError_eq_ok.2 haccept
  · rintro ⟨l, hl, _⟩
    rw [haudience] at hl
    cases hl

end IdToken
end Countersign
