import Countersign.Proofs.BoundTokens

/-!
# Session names — when two tokens name one session

A session is named by a digest: of the identity on the web that its token claims, or else of the issuer
and the subject, joined by a bar.  The bar can also occur in what it joins, and in an identity on the web.
Equal names therefore mean equal texts, up to a collision of the digest, but not always equal identities.

* `Token.claim?`, `IdToken.Holder` — what a token claims, and whom it identifies;
* `IdToken.Holder.text` — the text whose digest names the session;
* `IdToken.Holder.Mistaken` — the pairs of identities that share a text;
* `IdToken.Naming` — when two accepted tokens name one session;
* `IdToken.session_naming` — this holds of all tokens, under any settings;
* `IdToken.mistaken_holders` — two identities with one session name.
-/

namespace Countersign

open Program

/-! ## What a token claims -/

/-- The text that a token claims under a name. -/
def Token.claim? (name token : String) : Option String :=
  ((Token.payload? token).bind (Json.field? name)).bind Json.string?

namespace IdToken

/-! ## Whom a token identifies -/

/-- Whom a token identifies: somebody by an identity on the web, or else by what an issuer calls them. -/
inductive Holder where
  | named (webid : String)
  | listed (issuer subject : String)
deriving DecidableEq, Repr

/-- The text whose digest names the session of a holder. -/
def Holder.text : Holder → String
  | named webid => webid
  | listed issuer subject => issuer ++ "|" ++ subject

/-- Whom a token identifies, read off its claims. -/
def holder? (token : String) : Option Holder :=
  match Token.claim? "webid" token with
  | some webid => some (.named webid)
  | none =>
    (Token.claim? "iss" token).bind fun issuer =>
      (Token.claim? "sub" token).map fun subject => .listed issuer subject

variable {settings : VerificationSettings} {token : String} {u : Transcript World} {v : VerifiedToken}

/-- An accepted token claims the texts that its credential and its session are made of. -/
theorem texts_of_walk (hwalk : Walk (verify settings token) u (done (.ok v))) :
    ∃ c : IdentityClaims, Token.claim? "iss" token = some c.issuer ∧
      Token.claim? "sub" token = some c.subject ∧ Token.claim? "webid" token = c.webid ∧
      v.credential.principal = principalOf c ∧ v.session = sessionOf c := by
  rcases judged_of_walk hwalk with ⟨h, key, _, now, _, _, haccept⟩
  rcases accept_eq_ok.1 haccept with ⟨c, limits, issuer, expiration, hclaims, hcheck, _, _, rfl⟩
  rcases fields_of_claims hclaims (LimitClaims.expiration_of_check hcheck) with ⟨fields, hj, hidentity, _⟩
  have hclaim : ∀ name, Token.claim? name token =
      (Json.field? name (.object fields)).bind Json.string? := by
    intro name
    rw [Token.claim?, hj, Option.bind_some]
  rcases IdentityClaims.read_of_object hidentity with ⟨hissuer, hsubject, _, hwebid, _⟩
  refine ⟨c, (hclaim _).trans hissuer, (hclaim _).trans hsubject, ?_, rfl, rfl⟩
  rw [hclaim, ← Json.bind_string?_of_optional? hwebid]

/-- An accepted token identifies somebody, and the digest of their text names the session. -/
theorem holder_of_walk (hwalk : Walk (verify settings token) u (done (.ok v))) :
    ∃ a, holder? token = some a ∧ v.session = digestText a.text := by
  rcases texts_of_walk hwalk with ⟨c, hissuer, hsubject, hwebid, _, hsession⟩
  rw [hsession]
  cases hnamed : c.webid with
  | some webid =>
      refine ⟨.named webid, ?_, ?_⟩
      · rw [holder?, hwebid, hnamed]
      · rw [sessionOf, hnamed]
        rfl
  | none =>
      refine ⟨.listed c.issuer c.subject, ?_, ?_⟩
      · rw [holder?, hwebid, hnamed, hissuer, hsubject]
        rfl
      · rw [sessionOf, hnamed]
        rfl

/-! ## Texts that two holders share -/

namespace Holder

/-- Pairs of different holders with one text: an identity on the web that is spelled like the two parts of
a listed holder, or two listed holders whose texts are cut at different bars. -/
inductive Mistaken : Holder → Holder → Prop where
  | named (issuer subject : String) :
      Mistaken (.named (issuer ++ "|" ++ subject)) (.listed issuer subject)
  | listed (issuer subject : String) :
      Mistaken (.listed issuer subject) (.named (issuer ++ "|" ++ subject))
  | longer (issuer middle subject : String) :
      Mistaken (.listed issuer (middle ++ "|" ++ subject)) (.listed (issuer ++ "|" ++ middle) subject)
  | shorter (issuer middle subject : String) :
      Mistaken (.listed (issuer ++ "|" ++ middle) subject) (.listed issuer (middle ++ "|" ++ subject))

theorem eq_joined_iff {t i s : String} : t = i ++ "|" ++ s ↔ t.toList = i.toList ++ '|' :: s.toList := by
  rw [← String.toList_inj]
  simp

/-- A text that is cut at two bars is cut at one and the same, or has a part between them. -/
theorem exists_middle {i s i' s' : String} (h : i ++ "|" ++ s = i' ++ "|" ++ s') :
    (i = i' ∧ s = s') ∨ (∃ m, i' = i ++ "|" ++ m ∧ s = m ++ "|" ++ s') ∨
      ∃ m, i = i' ++ "|" ++ m ∧ s' = m ++ "|" ++ s := by
  -- what one cut leaves behind the other begins with a bar, if it is not empty
  have hbehind : ∀ {x : List Char} {b b' : String}, '|' :: b.toList = x ++ '|' :: b'.toList →
      (x = [] ∧ b = b') ∨ ∃ m : String, x = '|' :: m.toList ∧ b = m ++ "|" ++ b' := by
    intro x b b' hx
    cases x with
    | nil => exact .inl ⟨rfl, String.toList_inj.1 (List.cons.inj hx).2⟩
    | cons c x =>
        rcases List.cons.inj hx with ⟨rfl, hrest⟩
        exact .inr ⟨String.ofList x, by simp, eq_joined_iff.2 (by simpa using hrest)⟩
  have hlists : i.toList ++ '|' :: s.toList = i'.toList ++ '|' :: s'.toList :=
    (eq_joined_iff.1 rfl).symm.trans (eq_joined_iff.1 h)
  rcases List.append_eq_append_iff.1 hlists with ⟨x, hi, hx⟩ | ⟨x, hi, hx⟩
  · rcases hbehind hx with ⟨rfl, hs⟩ | ⟨m, rfl, hs⟩
    · exact .inl ⟨String.toList_inj.1 (by simpa using hi.symm), hs⟩
    · exact .inr (.inl ⟨m, eq_joined_iff.2 hi, hs⟩)
  · rcases hbehind hx with ⟨rfl, hs⟩ | ⟨m, rfl, hs⟩
    · exact .inl ⟨String.toList_inj.1 (by simpa using hi), hs.symm⟩
    · exact .inr (.inr ⟨m, eq_joined_iff.2 hi, hs⟩)

theorem Mistaken.text_eq {a b : Holder} (h : Mistaken a b) : a.text = b.text := by
  cases h with
  | named | listed => rfl
  | longer issuer middle subject => simp [text, String.append_assoc]
  | shorter issuer middle subject => simp [text, String.append_assoc]

/-- Two holders have one text if they are the same, or are mistaken for each other. -/
theorem text_eq_iff {a b : Holder} : a.text = b.text ↔ a = b ∨ Mistaken a b := by
  constructor
  · intro h
    cases a with
    | named webid =>
        cases b with
        | named webid' => exact .inl (congrArg _ h)
        | listed issuer subject =>
            have hwebid : webid = issuer ++ "|" ++ subject := h
            subst hwebid
            exact .inr (.named issuer subject)
    | listed issuer subject =>
        cases b with
        | named webid =>
            have hwebid : issuer ++ "|" ++ subject = webid := h
            subst hwebid
            exact .inr (.listed issuer subject)
        | listed issuer' subject' =>
            rcases exists_middle h with ⟨rfl, rfl⟩ | ⟨m, rfl, rfl⟩ | ⟨m, rfl, rfl⟩
            · exact .inl rfl
            · exact .inr (.longer issuer m subject')
            · exact .inr (.shorter issuer' m subject)
  · rintro (rfl | hmistaken)
    · rfl
    · exact hmistaken.text_eq

/-- Whether the identity on the web or the issuer contains no bar. -/
def Plain : Holder → Prop
  | named webid => '|' ∉ webid.toList
  | listed issuer _ => '|' ∉ issuer.toList

/-- Of two holders that are mistaken for each other one is not plain. -/
theorem Mistaken.not_plain {a b : Holder} (h : Mistaken a b) : ¬ (a.Plain ∧ b.Plain) := by
  rintro ⟨ha, hb⟩
  cases h with
  | named issuer subject => simp [Plain] at ha
  | listed issuer subject => simp [Plain] at hb
  | longer issuer middle subject => simp [Plain] at hb
  | shorter issuer middle subject => simp [Plain] at ha

end Holder

/-! ## Equal names -/

/-- Two texts with one digest. -/
def Collide (s t : String) : Prop :=
  s ≠ t ∧ Digest.sha256.hash (Utf8.encode s) = Digest.sha256.hash (Utf8.encode t)

/-- Equal digests are those of one text, or a collision. -/
theorem digestText_eq_iff {s t : String} : digestText s = digestText t ↔ s = t ∨ Collide s t := by
  constructor
  · intro h
    by_cases hst : s = t
    · exact .inl hst
    · exact .inr ⟨hst, Hex.encode_injective h⟩
  · rintro (rfl | ⟨_, hhash⟩)
    · rfl
    · exact congrArg Hex.encode hhash

/-- When two accepted tokens name one session. -/
structure Naming : Prop where
  /-- An accepted token identifies somebody, and the digest of their text names the session. -/
  verified : ∀ settings token u v, Walk (verify settings token) u (done (.ok v)) →
    ∃ a, holder? token = some a ∧ v.session = digestText a.text
  /-- A session that is begun with the token has that name. -/
  begun : ∀ number cache settings token u s,
    Walk (Session.ofToken number cache settings token) u (done (.ok s)) →
    ∃ a, holder? token = some a ∧ s.name = digestText a.text
  /-- Two names are equal if the holders are the same or are mistaken for each other, and otherwise only
  by a collision of the digest on their two texts. -/
  equal_iff : ∀ settings settings' token token' u u' v v' a b,
    Walk (verify settings token) u (done (.ok v)) → Walk (verify settings' token') u' (done (.ok v')) →
    holder? token = some a → holder? token' = some b →
    (v.session = v'.session ↔ a = b ∨ a.Mistaken b ∨ Collide a.text b.text)
  /-- Names separate plain holders, up to collisions of the digest. -/
  separated : ∀ settings settings' token token' u u' v v' a b,
    Walk (verify settings token) u (done (.ok v)) → Walk (verify settings' token') u' (done (.ok v')) →
    holder? token = some a → holder? token' = some b → a.Plain → b.Plain → v.session = v'.session →
    a = b ∨ Collide a.text b.text

theorem session_eq_iff {settings' : VerificationSettings} {token' : String} {u' : Transcript World}
    {v' : VerifiedToken} {a b : Holder} (hwalk : Walk (verify settings token) u (done (.ok v)))
    (hwalk' : Walk (verify settings' token') u' (done (.ok v'))) (ha : holder? token = some a)
    (hb : holder? token' = some b) :
    v.session = v'.session ↔ a = b ∨ a.Mistaken b ∨ Collide a.text b.text := by
  rcases holder_of_walk hwalk with ⟨a', ha', hsession⟩
  rcases holder_of_walk hwalk' with ⟨b', hb', hsession'⟩
  cases ha.symm.trans ha'
  cases hb.symm.trans hb'
  rw [hsession, hsession', digestText_eq_iff, Holder.text_eq_iff, or_assoc]

/-- Session names are equal for equal identities, for those that are mistaken for each other, and for
nobody else but by a collision of the digest. -/
theorem session_naming : Naming where
  verified _ _ _ _ := holder_of_walk
  begun number cache settings token u s hwalk := by
    rcases Session.begun_of_walk hwalk with ⟨u', v, _, hverify, rfl⟩
    exact holder_of_walk hverify
  equal_iff _ _ _ _ _ _ _ _ _ _ := session_eq_iff
  separated settings settings' token token' u u' v v' a b hwalk hwalk' ha hb hplain hplain' hequal := by
    rcases (session_eq_iff hwalk hwalk' ha hb).1 hequal with rfl | hmistaken | hcollide
    · exact .inl rfl
    · exact absurd ⟨hplain, hplain'⟩ hmistaken.not_plain
    · exact .inr hcollide

/-! ### Two identities with one name -/

/-- A token of the issuer `urn:i` for the subject `b`, with the identity on the web `urn:i|a`. -/
def webbed : String :=
  "eyJhbGciOiJIUzI1NiJ9." ++
  "eyJpc3MiOiJ1cm46aSIsInN1YiI6ImIiLCJpYXQiOjAsImV4cCI6NDEwMjQ0NDgwMCwid2ViaWQiOiJ1cm46aXxhIn0.s"

/-- What the token says. -/
def webbedPayload : Json :=
  .ofFields [("iss", .string "urn:i"), ("sub", .string "b"), ("iat", .integer 0),
    ("exp", .integer 4102444800), ("webid", .string "urn:i|a")]

/-- Whom the token speaks for. -/
def webbedIdentity : IdentityClaims :=
  { issuer := "urn:i", subject := "b", expiration := 4102444800, webid := some "urn:i|a" }

/-- What the token gives. -/
def webbedVerified : VerifiedToken :=
  ⟨credentialOf webbed webbedIdentity { scheme := "urn", path := "i" } ⟨4102444800, 0⟩,
    sessionOf webbedIdentity⟩

set_option maxRecDepth 1500 in
theorem payload_webbed : Token.payload? webbed = some webbedPayload := by cbv

/-- The token passes up to the second in which it expires. -/
theorem walk_webbed {now : Instant} (hnow : now.seconds ≤ 4102444800) :
    Walk (verify {} webbed) [⟨.clock, now⟩] (done (.ok webbedVerified)) := by
  have hheader : header {} webbed = .ok ⟨.hs256, none, none, none⟩ := by
    have hread : TokenHeader.ofToken webbed = .ok ⟨.hs256, none, none, none⟩ := by cbv
    rw [header, hread]
    rfl
  have hclaims : claims webbed ⟨.hs256, none, none, none⟩ none =
      .ok (webbedIdentity, { expiration := some 4102444800 }) :=
    claims_of_payload payload_webbed (by decide +kernel) (by decide +kernel)
  have hcheck : ({ expiration := some 4102444800 } : LimitClaims).check none 0 now = .ok () :=
    LimitClaims.check_eq_ok.2 ⟨⟨4102444800, rfl, by simpa using hnow⟩, by simp⟩
  have hissuer : Url.parse "urn:i" = .ok { scheme := "urn", path := "i" } := by cbv
  have hexpiration : expirationOf webbedIdentity 0 = some ⟨4102444800, 0⟩ := by decide +kernel
  have hpasses : (accept {} webbed ⟨.hs256, none, none, none⟩ none now).mapError
      AuthError.invalidCredential = .ok webbedVerified :=
    mapError_eq_ok.2 (accept_eq_ok.2 ⟨_, _, _, _, hclaims, hcheck, hissuer, hexpiration, rfl⟩)
  rw [verify, hheader, ← hpasses]
  exact .answered (.here _)

/-- The identity on the web `urn:i|a` and the subject `a` of the issuer `urn:i` have one session name. -/
theorem mistaken_holders :
    Walk (verify {} webbed) [⟨.clock, ⟨0, 0⟩⟩] (done (.ok webbedVerified)) ∧
      Walk (verify {} unaddressed) [⟨.clock, ⟨0, 0⟩⟩] (done (.ok unaddressedVerified)) ∧
      webbedVerified.session = unaddressedVerified.session ∧
      Token.claim? "webid" webbed = some "urn:i|a" ∧ Token.claim? "webid" unaddressed = none ∧
      Token.claim? "sub" webbed = some "b" ∧ Token.claim? "sub" unaddressed = some "a" := by
  refine ⟨walk_webbed (by decide), walk_unaddressed (by decide), rfl, ?_, ?_, ?_, ?_⟩
  · rw [Token.claim?, payload_webbed]
    decide
  · rw [Token.claim?, payload_unaddressed]
    decide
  · rw [Token.claim?, payload_webbed]
    decide
  · rw [Token.claim?, payload_unaddressed]
    decide

end IdToken
end Countersign
