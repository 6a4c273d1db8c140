import Countersign.Proofs.Vouching

/-!
# Expiry checks — the last second of a token

The expiration of a token is checked twice.  Verification compares whole seconds and allows for the
tolerance of the settings; every later use compares the moment to which the tolerance has shifted the
expiration of the credential.  The two agree up to one second: throughout the second in which the
tolerance ends the token still passes, and its credential has expired as that second began.

* `Token.expiration?` — the second in which a token expires;
* `IdToken.Terms` — until when a token passes, and until when its credential is live;
* `Session.Finds`, `Session.Queues` — what a call makes of the credential that it is shown;
* `IdToken.expiry_checks` — both checks, for verifications, new sessions and refilled slots.
-/

namespace Countersign

open Program

/-! ## The second in which a token expires -/

/-- The second in which a token expires: its claim `exp`. -/
def Token.expiration? (token : String) : Option Int :=
  ((Token.payload? token).bind (Json.field? "exp")).bind Json.integer?

theorem Json.of_natural? {j : Json} {n : Nat} (h : j.natural? = some n) :
    j = .integer n := by
  cases j with
  | integer m =>
      rcases Option.ite_none_right_eq_some.1 h with ⟨⟨hpos, _⟩, hn⟩
      have hm : m = n := by
        rw [← Option.some.inj hn]
        omega
      rw [hm]
  | _ => cases h

theorem Json.of_integer? {j : Json} {n : Int} (h : j.integer? = some n) : j = .integer n := by
  cases j with
  | integer m =>
      rcases Option.ite_none_right_eq_some.1 h with ⟨_, hn⟩
      rw [Option.some.inj hn]
  | _ => cases h

/-! ## The two checks -/

namespace IdToken

variable {settings : VerificationSettings} {token : String} {h : TokenHeader}
  {key : Option VerificationKey} {u : Transcript World} {v : VerifiedToken}

/-- Both readings of the claims name the second in which the token expires. -/
theorem expiration_of_claims {c : IdentityClaims} {limits : LimitClaims} {e : Nat}
    (hclaims : claims token h key = .ok (c, limits)) (he : limits.expiration = some e) :
    Token.expiration? token = some (e : Int) ∧ c.expiration = e := by
  rcases fields_of_claims hclaims (by simp [he]) with ⟨fields, hj, hidentity, hlimits⟩
  have hlimit := (LimitClaims.read_of_object hlimits).1
  rcases IdentityClaims.read_of_object hidentity with ⟨_, _, hread, _⟩
  rcases Option.bind_eq_some_iff.1 (hlimit.symm.trans he) with ⟨j, hfield, hnatural⟩
  have hnumber := Json.of_natural? hnatural
  have hexp : c.expiration = e := by
    rw [hfield, Option.bind_some] at hread
    exact (Json.integer.inj (hnumber.symm.trans (Json.of_integer? hread))).symm
  refine ⟨?_, hexp⟩
  calc Token.expiration? token
      = (Json.field? "exp" (.object fields)).bind Json.integer? := by
        rw [Token.expiration?, hj, Option.bind_some]
    _ = some c.expiration := hread
    _ = some (e : Int) := by rw [hexp]

/-- The credential of a token expires with it, later by the tolerance. -/
theorem expirationOf_eq_some {c : IdentityClaims} {grace : Nat} {expiration : Instant}
    (hexpiration : expirationOf c grace = some expiration) :
    expiration = ⟨c.expiration + grace, 0⟩ := by
  rcases Option.bind_eq_some_iff.1 hexpiration with ⟨e, he, hadd⟩
  rcases Option.ite_none_right_eq_some.1 he with ⟨_, he'⟩
  cases he'
  rcases Option.ite_none_right_eq_some.1 hadd with ⟨_, hsum⟩
  exact (Option.some.inj hsum).symm

/-- Until when a token passes that is answered alike but for the clock, and until when the credential
that it gives is live. -/
structure Terms (settings : VerificationSettings) (token : String) (u : Transcript World)
    (v : VerifiedToken) (exp : Int) : Prop where
  claimed : Token.expiration? token = some exp
  passes_iff : ∀ now : Instant, Walk (verify settings token) (u ++ [⟨.clock, now⟩]) (done (.ok v)) ↔
    now.seconds ≤ exp + settings.grace
  live_iff : ∀ now : Instant, v.credential.isExpiredAt now = false ↔
    now.seconds < exp + settings.grace

/-- A token that passes at one moment passes at all up to the end of its last second, while its
credential is live up to the beginning of that second. -/
theorem terms_of_accept {now : Instant}
    (hjudge : Walk (verify settings token) u (judge settings token h key))
    (haccept : accept settings token h key now = .ok v) : ∃ exp, Terms settings token u v exp := by
  rcases accept_eq_ok.1 haccept with
    ⟨c, limits, issuer, expiration, hclaims, hcheck, hissuer, hexpiration, rfl⟩
  rcases LimitClaims.check_eq_ok.1 hcheck with ⟨⟨e, he, _⟩, haudience⟩
  rcases expiration_of_claims hclaims he with ⟨hclaimed, hc⟩
  have hend := expirationOf_eq_some hexpiration
  rw [hc] at hend
  subst hend
  refine ⟨e, hclaimed, ?_, ?_⟩
  · intro t
    constructor
    · intro hwalk
      rcases hwalk.of_append with ⟨m, hm, hlast⟩
      cases hjudge.unique hm
      rcases judge_of_walk hlast with ⟨t', ht, hx⟩
      cases ht
      rcases accept_eq_ok.1 (mapError_eq_ok.1 hx.symm) with
        ⟨c', limits', _, _, hclaims', hcheck', _⟩
      cases hclaims.symm.trans hclaims'
      rcases LimitClaims.check_eq_ok.1 hcheck' with ⟨⟨e', he', hle⟩, _⟩
      cases he.symm.trans he'
      exact hle
    · intro hle
      have hcheck' := LimitClaims.check_eq_ok.2 ⟨⟨e, he, hle⟩, haudience⟩
      have hpasses := accept_eq_ok.2 ⟨c, limits, issuer, _, hclaims, hcheck', hissuer, hexpiration, rfl⟩
      have hlast : Walk (judge settings token h key) [⟨.clock, t⟩]
          (done ((accept settings token h key t).mapError .invalidCredential)) := .answered (.here _)
      rw [mapError_eq_ok.2 hpasses] at hlast
      exact hjudge.append hlast
  · intro t
    -- the last second has begun as soon as the clock shows it, whatever the fraction
    rw [← Bool.not_eq_true, credentialOf, Credential.isExpiredAt, Instant.le_iff]
    constructor
    · intro hlive
      dsimp only at hlive ⊢
      omega
    · intro hlt
      dsimp only at hlt ⊢
      omega

/-- A token has passed at a moment. -/
structure Passed (settings : VerificationSettings) (token : String) (u : Transcript World)
    (v : VerifiedToken) (now : Instant) (exp : Int) : Prop where
  terms : Terms settings token u v exp
  passes : now.seconds ≤ exp + settings.grace
  /-- Only in the last second has the credential expired at the same moment. -/
  expired_iff : v.credential.isExpiredAt now = true ↔ now.seconds = exp + settings.grace

theorem passed_of_walk (hwalk : Walk (verify settings token) u (done (.ok v))) :
    ∃ u' now exp, u = u' ++ [⟨.clock, now⟩] ∧ Passed settings token u' v now exp := by
  rcases judged_of_walk hwalk with ⟨h, key, u', now, rfl, hjudge, haccept⟩
  rcases terms_of_accept hjudge haccept with ⟨exp, hterms⟩
  have hpasses := (hterms.passes_iff now).1 hwalk
  have hexpired : v.credential.isExpiredAt now = true ↔ now.seconds = exp + settings.grace := by
    rw [← Bool.not_eq_false, hterms.live_iff now]
    omega
  exact ⟨u', now, exp, rfl, hterms, hpasses, hexpired⟩

end IdToken

/-! ## Calls that are shown the credential -/

namespace Session

variable {s : Session} {settings : VerificationSettings} {renewable : Bool}

/-- Whether a call that is shown the slot of the session returns a credential at once. -/
def Finds (s : Session) (x : Slot.Look) (c : Credential) : Prop :=
  Walk (s.credential IdToken.name) [⟨.look s.number, x⟩] (done (.ok (some c)))

/-- Whether a call that is shown the slot of the session queues to refresh it. -/
def Queues (s : Session) (x : Slot.Look) : Prop :=
  ∃ next, Walk (s.credential IdToken.name) [⟨.look s.number, x⟩]
    (ask (I := World) (.acquire s.number) next)

/-- What the calls of a session make of a slot with a credential that lives up to a second. -/
structure Shown (s : Session) (slot : SlotState) (c : Credential) (bound : Int) : Prop where
  finds_iff : ∀ now : Instant, s.Finds (slot, now) c ↔ now.seconds < bound
  queues_iff : ∀ now : Instant, s.Queues (slot, now) ↔ bound ≤ now.seconds

theorem credential_of_openId (hidentity : s.identity = .openId settings renewable) :
    s.credential IdToken.name = Slot.getOrRefresh s.number s.refresh := by
  rw [credential, hidentity]
  exact if_pos rfl

/-- A call returns the credential that it is shown while that is live, and queues from then on. -/
theorem shown_of_terms {slot : SlotState} {token : String} {u : Transcript World} {v : VerifiedToken}
    {exp : Int} (hidentity : s.identity = .openId settings renewable)
    (hterms : IdToken.Terms settings token u v exp) (hslot : slot.credential = some v.credential) :
    Shown s slot v.credential (exp + settings.grace) := by
  have hfinds : ∀ now : Instant, now.seconds < exp + settings.grace →
      Walk (s.credential IdToken.name) [⟨.look s.number, (slot, now)⟩]
        (done (.ok (some v.credential))) := by
    intro now hlt
    have hlive : Credential.liveAt now slot.credential = some v.credential := by
      rw [hslot]
      exact Credential.liveAt_eq_some.2 ⟨rfl, (hterms.live_iff now).2 hlt⟩
    rw [credential_of_openId hidentity, Slot.getOrRefresh_eq]
    refine .answered ?_
    simp only [hlive]
    exact .here _
  have hqueues : ∀ now : Instant, exp + settings.grace ≤ now.seconds →
      ∃ next, Walk (s.credential IdToken.name) [⟨.look s.number, (slot, now)⟩]
        (ask (I := World) (.acquire s.number) next) := by
    intro now hle
    have hnot : v.credential.isExpiredAt now ≠ false := by
      intro hlive
      have hlt := (hterms.live_iff now).1 hlive
      omega
    have hexpired : Credential.liveAt now slot.credential = none := by
      rw [hslot, Credential.liveAt_some, if_pos (Bool.eq_true_of_not_eq_false hnot)]
    refine ⟨fun _ => Slot.underLock s.number slot.generation s.refresh, ?_⟩
    rw [credential_of_openId hidentity, Slot.getOrRefresh_eq]
    refine .answered ?_
    simp only [hexpired]
    exact .here _
  refine ⟨?_, ?_⟩
  · intro now
    refine ⟨fun hfound => ?_, hfinds now⟩
    by_contra hle
    rcases hqueues now (by omega) with ⟨next, hqueued⟩
    cases hqueued.unique hfound
  · intro now
    refine ⟨?_, hqueues now⟩
    rintro ⟨next, hqueued⟩
    by_contra hlt
    cases (hfinds now (by omega)).unique hqueued

/-- A session begins once its token has passed. -/
theorem walk_ofToken {token : String} {u : Transcript World} {v : VerifiedToken} (number : SessionId)
    (cache : CacheSettings) (hverify : Walk (IdToken.verify settings token) u (done (.ok v))) :
    Walk (ofToken number cache settings token)
      (u ++ [⟨.establish number cache (some v.credential), ()⟩])
      (done (.ok ⟨number, v.session, .openId settings false⟩)) :=
  (hverify.bind _).append (.answered (.here _))

end Session

/-! ## Verifications, new sessions and refilled slots -/

namespace IdToken

/-- How the two checks of an expiration meet wherever a token is taken up. -/
structure ExpiryChecks (settings : VerificationSettings) : Prop where
  /-- A verification that accepts has read the clock once, and the credential that it gives has expired
  at that moment only if the moment lies in the last second of the token. -/
  verified : ∀ token u v, Walk (verify settings token) u (done (.ok v)) →
    ∃ u' now exp, u = u' ++ [⟨.clock, now⟩] ∧ Passed settings token u' v now exp
  /-- A session begins with such a credential in its slot. -/
  begun : ∀ number cache token u s,
    Walk (Session.ofToken number cache settings token) u (done (.ok s)) →
    ∃ u' now v exp, u = u' ++ [⟨.clock, now⟩, ⟨.establish number cache (some v.credential), ()⟩] ∧
      Passed settings token u' v now exp ∧ s.number = number ∧
      ∀ store : Store, s.Shown
        (((Act.establish number cache (some v.credential)).onStore store).vault number).slot
        v.credential (exp + settings.grace)
  /-- A refresh refills the slot with such a credential. -/
  refilled : ∀ (s : Session) renewable name u i c next, s.identity = .openId settings renewable →
    Walk (s.credential name) u (ask (I := World) (.settle i (.ok (some c))) next) →
    ∃ x y token u' now v exp, u = Slot.opening s.number x y ++
        ⟨.pause, ()⟩ :: ⟨.freshToken s.number, .ok token⟩ :: (u' ++ [⟨.clock, now⟩]) ∧
      Passed settings token u' v now exp ∧ i = s.number ∧ c = v.credential ∧
      ∀ store : Store, s.Shown
        (((Act.settle s.number (.ok (some c))).onStore store).vault s.number).slot
        c (exp + settings.grace)

/-- A token passes throughout the second that ends its tolerance, and its credential expires as this
second begins. -/
theorem expiry_checks (settings : VerificationSettings) : ExpiryChecks settings where
  verified token u v hwalk := passed_of_walk hwalk
  begun number cache token u s hwalk := by
    rcases Session.begun_of_walk hwalk with ⟨u₁, v, rfl, hverify, rfl⟩
    rcases passed_of_walk hverify with ⟨u', now, exp, rfl, hpassed⟩
    refine ⟨u', now, v, exp, by simp, hpassed, rfl, fun store => ?_⟩
    refine Session.shown_of_terms rfl hpassed.terms ?_
    simp [Act.onStore]
  refilled s renewable name u i c next hidentity hwalk := by
    rcases Session.settle_of_walk hwalk with ⟨hi, x, y, u', own, rfl, _, hrefresh, houtcome⟩
    have hown : own = .ok (some c) := mapError_eq_ok.1 houtcome.symm
    subst hown
    unfold Session.refresh at hrefresh
    rw [hidentity] at hrefresh
    cases renewable with
    | false =>
        rcases walk_done_iff.1 hrefresh with ⟨_, hq⟩
        cases hq
    | true =>
        rcases Session.renew_of_walk hrefresh with ⟨token, u'', v, rfl, hverify, rfl⟩
        rcases passed_of_walk hverify with ⟨u₁, now, exp, rfl, hpassed⟩
        refine ⟨x, y, token, u₁, now, v, exp, rfl, hpassed, hi, rfl, fun store => ?_⟩
        refine Session.shown_of_terms hidentity hpassed.terms ?_
        simp [Act.onStore, SlotState.settled]

/-- A moment in the second in which the token `unaddressed` expires. -/
def lastSecond : Instant := ⟨4102444800, 123456789⟩

/-- In its last second the token is accepted, and a session is built around it, but the credential has
expired at the same moment and the next call queues to refresh it. -/
theorem expired_in_last_second :
    Walk (verify {} unaddressed) [⟨.clock, lastSecond⟩] (done (.ok unaddressedVerified)) ∧
      unaddressedVerified.credential.isExpiredAt lastSecond = true ∧
      ∃ s, Walk (Session.ofToken 0 {} {} unaddressed)
          [⟨.clock, lastSecond⟩, ⟨.establish 0 {} (some unaddressedVerified.credential), ()⟩]
          (done (.ok s)) ∧
        s.Queues ({ credential := some unaddressedVerified.credential }, lastSecond) := by
  have hverify : Walk (verify {} unaddressed) [⟨.clock, lastSecond⟩] (done (.ok unaddressedVerified)) :=
    walk_unaddressed (by decide)
  have hexpired : unaddressedVerified.credential.isExpiredAt lastSecond = true := rfl
  let s : Session := ⟨0, unaddressedVerified.session, .openId {} false⟩
  have hbegun : Walk (Session.ofToken 0 {} {} unaddressed)
      [⟨.clock, lastSecond⟩, ⟨.establish 0 {} (some unaddressedVerified.credential), ()⟩]
      (done (.ok s)) := Session.walk_ofToken 0 {} hverify
  refine ⟨hverify, hexpired, s, hbegun, fun _ => Slot.underLock 0 0 s.refresh, ?_⟩
  rw [Session.credential_of_openId rfl, Slot.getOrRefresh_eq]
  exact .answered (.here _)

end IdToken
end Countersign
