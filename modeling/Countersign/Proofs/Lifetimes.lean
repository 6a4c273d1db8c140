import Countersign.Proofs.Acquiring
import Countersign.Proofs.Calendar
import Countersign.Proofs.ExpiryChecks

/-!
# Lifetimes — until when a credential is live, to the second

Two numbers from outside date a credential: the lifetime that a server grants with a token, counted from
the clock, and the expiration that an identity token claims, shifted by the tolerance of the settings.
Either sum is the exact one, or it is refused.  The bounds are those of the words and of the calendar:
spans are milliseconds in a signed word, and years have at most six digits.

* `Instant.Spans`, `Instant.Reaches` — which spans and sums can be represented;
* `Instant.toInt_add_of_reaches` — words hold those sums without wrapping;
* `TicketProvider.Dating` — the credentials of granted tokens;
* `IdToken.Dating` — the credentials of identity tokens;
* `exact_lifetimes` — what holds of them for every number and every clock.
-/

namespace Countersign

open Program

/-! ## Spans and sums -/

namespace Instant

variable {t e : Instant} {n : Nat}

/-- Whether some seconds make a span: spans are counted in milliseconds, in a signed word. -/
def Spans (n : Nat) : Prop := 1000 * n ≤ 2 ^ 63 - 1

/-- The moment some seconds later, on a time line without end. -/
def after (t : Instant) (n : Nat) : Instant := ⟨t.seconds + n, t.nanos⟩

/-- Whether the moment some seconds later can be represented, and the seconds as a span. -/
def Reaches (t : Instant) (n : Nat) : Prop := Spans n ∧ Datable (t.seconds + n)

theorem spans_iff : Spans n ↔ n ≤ maxSpanSeconds := by
  rw [Spans, maxSpanSeconds]
  omega

theorem addSeconds?_eq_some : t.addSeconds? n = some e ↔ t.Reaches n ∧ e = t.after n := by
  rw [addSeconds?, Option.ite_none_right_eq_some, Bool.and_eq_true, decide_eq_true_iff, inRange_iff,
    ← spans_iff, Option.some.injEq, eq_comm (b := e)]
  exact Iff.rfl

theorem addSeconds?_eq_none : t.addSeconds? n = none ↔ ¬ t.Reaches n := by
  rw [← not_iff_not, not_not, ← Ne, Option.ne_none_iff_exists']
  constructor
  · rintro ⟨e, he⟩
    exact (addSeconds?_eq_some.1 he).1
  · intro hreaches
    exact ⟨t.after n, addSeconds?_eq_some.2 ⟨hreaches, rfl⟩⟩

theorem datable_iff {seconds : Int} :
    Datable seconds ↔ -8334601228800 ≤ seconds ∧ seconds ≤ 8210266876799 := by
  rw [← inRange_iff, inRange, Bool.and_eq_true, decide_eq_true_iff, decide_eq_true_iff]
  exact Iff.rfl

/-- A sum that can be represented is the sum of the signed words. -/
theorem toInt_add_of_reaches (ht : Datable t.seconds) (h : t.Reaches n) :
    (Int64.ofInt t.seconds + Int64.ofInt n).toInt = t.seconds + n := by
  have hspan : 1000 * n ≤ 2 ^ 63 - 1 := h.1
  have hclock := datable_iff.1 ht
  have hsum := datable_iff.1 h.2
  have hfirst : (Int64.ofInt t.seconds).toInt = t.seconds :=
    Int64.toInt_ofInt_of_le (by omega) (by omega)
  have hsecond : (Int64.ofInt n).toInt = n := Int64.toInt_ofInt_of_le (by omega) (by omega)
  rw [Int64.toInt_add, hfirst, hsecond]
  exact Int.bmod_eq_of_le (by omega) (by omega)

end Instant

/-! ## Granted tokens -/

namespace TokenAnswer

/-- For how many seconds a token lives. -/
def lifetime (expiresIn : Option Nat) : Nat := expiresIn.getD 300

variable {expiresIn : Option Nat} {now : Instant}

theorem expiration_eq_ok {e : Instant} :
    expiration expiresIn now = .ok e ↔
      now.Reaches (lifetime expiresIn) ∧ e = now.after (lifetime expiresIn) := by
  have hsum : now.addSeconds? (lifetime expiresIn) = some e ↔ _ := Instant.addSeconds?_eq_some
  rw [← hsum, expiration, lifetime, defaultLifetime]
  cases now.addSeconds? (expiresIn.getD 300) with
  | none => simp
  | some e' => simp

theorem expiration_eq_error {e : AuthError} :
    expiration expiresIn now = .error e ↔ ¬ now.Reaches (lifetime expiresIn) ∧
      e = .invalidCredential (.lifetimeOutOfRange (expiresIn.getD 0)) := by
  rw [← Instant.addSeconds?_eq_none, expiration, lifetime, defaultLifetime]
  cases now.addSeconds? (expiresIn.getD 300) with
  | none => simp [eq_comm]
  | some e' => simp

end TokenAnswer

namespace TicketProvider

variable {p : TicketProvider} {c : TicketChallenge} {s : Session} {idToken : Option Credential}
  {m : Metadata} {w : Transcript TicketExchange} {u : Transcript World} {token : TokenAnswer}
  {now : Instant}

/-- The credential of a granted token is dated from the clock that is read as the exchange ends. -/
theorem walk_exchange_of_reaches (hw : Walk (p.questions c s idToken m) w (done (.ok token)))
    (hserved : Served (TicketExchange.inWorld s p.handlers) w u)
    (hreaches : now.Reaches (TokenAnswer.lifetime token.expiresIn)) :
    Walk (p.exchange c s idToken m) (u ++ [⟨.clock, now⟩])
      (done (.ok (credentialOf c.server token (now.after (TokenAnswer.lifetime token.expiresIn)) idToken
        (s.selectThumbprint (Names.ofList m.dpopAlgorithms))))) :=
  (Exchanged.granted hw hserved (Instant.addSeconds?_eq_some.2 ⟨hreaches, rfl⟩)).walk

/-- An exchange that gives a credential was granted a token, and dated it. -/
theorem dated_of_walk {cred : Credential}
    (hwalk : Walk (p.exchange c s idToken m) u (done (.ok cred))) :
    ∃ w u' token now, u = u' ++ [⟨.clock, now⟩] ∧
      Walk (p.questions c s idToken m) w (done (.ok token)) ∧
      Served (TicketExchange.inWorld s p.handlers) w u' ∧
      now.Reaches (TokenAnswer.lifetime token.expiresIn) ∧
      cred.expiration = now.after (TokenAnswer.lifetime token.expiresIn) := by
  cases exchanged_of_walk hwalk with
  | granted hw hserved hend =>
      rcases Instant.addSeconds?_eq_some.1 hend with ⟨hreaches, rfl⟩
      exact ⟨_, _, _, _, rfl, hw, hserved, hreaches, rfl⟩

/-- How granted tokens are dated. -/
structure Dating : Prop where
  /-- The moment is the clock later by the lifetime, five minutes where none is granted. -/
  dated_iff : ∀ (expiresIn : Option Nat) (now e : Instant),
    TokenAnswer.expiration expiresIn now = .ok e ↔
      now.Reaches (expiresIn.getD 300) ∧ e = ⟨now.seconds + expiresIn.getD 300, now.nanos⟩
  /-- A lifetime is refused exactly if the span or the sum cannot be represented. -/
  refused_iff : ∀ (expiresIn : Option Nat) (now : Instant) (e : AuthError),
    TokenAnswer.expiration expiresIn now = .error e ↔ ¬ now.Reaches (expiresIn.getD 300) ∧
      e = .invalidCredential (.lifetimeOutOfRange (expiresIn.getD 0))
  /-- Signed words give the same sum. -/
  unwrapped : ∀ (expiresIn : Option Nat) (now e : Instant), Instant.Datable now.seconds →
    TokenAnswer.expiration expiresIn now = .ok e →
    e.seconds = (Int64.ofInt now.seconds + Int64.ofInt (expiresIn.getD 300)).toInt
  /-- A credential that an exchange gives is dated from the only clock it has read. -/
  exchanged : ∀ p c s idToken m u cred, Walk (exchange p c s idToken m) u (done (.ok cred)) →
    ∃ w u' token now, u = u' ++ [⟨.clock, now⟩] ∧
      Walk (p.questions c s idToken m) w (done (.ok token)) ∧
      Served (TicketExchange.inWorld s p.handlers) w u' ∧
      now.Reaches (TokenAnswer.lifetime token.expiresIn) ∧
      cred.expiration = now.after (TokenAnswer.lifetime token.expiresIn)
  /-- Whatever token is granted, the exchange ends with the next reading of the clock: with such a
  credential, or where the lifetime is refused with that error. -/
  ended : ∀ p c s idToken m w u token now, Walk (questions p c s idToken m) w (done (.ok token)) →
    Served (TicketExchange.inWorld s p.handlers) w u →
    (now.Reaches (TokenAnswer.lifetime token.expiresIn) →
      ∃ cred, Walk (p.exchange c s idToken m) (u ++ [⟨.clock, now⟩]) (done (.ok cred)) ∧
        cred.expiration = now.after (TokenAnswer.lifetime token.expiresIn)) ∧
    (¬ now.Reaches (TokenAnswer.lifetime token.expiresIn) →
      Walk (p.exchange c s idToken m) (u ++ [⟨.clock, now⟩])
        (done (.error (.invalidCredential (.lifetimeOutOfRange (token.expiresIn.getD 0))))))

theorem dating : Dating where
  dated_iff _ _ _ := TokenAnswer.expiration_eq_ok
  refused_iff _ _ _ := TokenAnswer.expiration_eq_error
  unwrapped expiresIn now e hclock hdated := by
    rcases TokenAnswer.expiration_eq_ok.1 hdated with ⟨hreaches, rfl⟩
    exact (Instant.toInt_add_of_reaches hclock hreaches).symm
  exchanged _ _ _ _ _ _ _ hwalk := dated_of_walk hwalk
  ended p c s idToken m w u token now hw hserved := by
    refine ⟨fun hreaches => ?_, fun hnot => ?_⟩
    · exact ⟨_, walk_exchange_of_reaches hw hserved hreaches, rfl⟩
    · exact (Exchanged.overlong hw hserved (Instant.addSeconds?_eq_none.2 hnot)).walk

end TicketProvider

/-! ## Identity tokens -/

namespace IdToken

variable {settings : VerificationSettings} {token : String} {h : TokenHeader}
  {key : Option VerificationKey} {u : Transcript World} {c : IdentityClaims} {limits : LimitClaims}
  {now : Instant}

/-- What can be said of a token in advance includes that the tolerance is a day at most. -/
theorem grace_of_header (hheader : header settings token = .ok h) : settings.grace ≤ 86400 := by
  unfold header at hheader
  rcases bind_eq_ok.1 hheader with ⟨h', _, hrest⟩
  split at hrest
  · cases hrest
  · next hgrace => exact Nat.le_of_not_lt hgrace

theorem verify_of_header_error {fault : CredentialFault}
    (hheader : header settings token = .error fault) :
    verify settings token = done (.error (.invalidCredential fault)) := by
  rw [verify, hheader]

/-- A longer tolerance is refused before anything is asked. -/
theorem verify_of_overlong (token : String) (hgrace : 86400 < settings.grace) :
    ∃ fault, verify settings token = done (.error (.invalidCredential fault)) := by
  cases hheader : header settings token with
  | error fault => exact ⟨fault, verify_of_header_error hheader⟩
  | ok h => exact absurd (grace_of_header hheader) (by omega)

theorem grace_of_walk_judge (hjudge : Walk (verify settings token) u (judge settings token h key)) :
    settings.grace ≤ 86400 := by
  by_contra hgrace
  rcases verify_of_overlong token (Nat.lt_of_not_le hgrace) with ⟨fault, hverify⟩
  rw [hverify] at hjudge
  cases (walk_done_iff.1 hjudge).2

/-- Verification fails for a fault of the token or of the keys, unless the keys cannot be asked for. -/
theorem fault_of_walk {e : AuthError} (hwalk : Walk (verify settings token) u (done (.error e))) :
    (∃ fault, e = .invalidCredential fault) ∨ ∃ location t, settings.keyLocation = some location ∧
      u = [⟨.transmit (keyRequest location), .error t⟩] ∧ e = .transport t := by
  have hfault : ∀ {α : Type} {x : Except CredentialFault α}, x.mapError AuthError.invalidCredential =
      .error e → ∃ fault, e = .invalidCredential fault := by
    intro α x hx
    rcases mapError_eq_error.1 hx with ⟨fault, _, rfl⟩
    exact ⟨fault, rfl⟩
  cases hlocation : settings.keyLocation with
  | none =>
      unfold verify at hwalk
      cases hheader : header settings token with
      | error fault =>
          rw [hheader] at hwalk
          cases (walk_done_iff.1 hwalk).2
          exact .inl ⟨fault, rfl⟩
      | ok h =>
          rw [hheader] at hwalk
          simp only [hlocation] at hwalk
          rcases judge_of_walk hwalk with ⟨now, _, hx⟩
          exact .inl (hfault hx.symm)
  | some location =>
      rcases verify_of_walk hlocation hwalk with
        ⟨fault, _, _, hx⟩ | ⟨h, fetched, _, ⟨e', houtcome, hu, hx⟩ | ⟨key, now, _, _, hx⟩⟩
      · cases hx
        exact .inl ⟨fault, rfl⟩
      · cases hx
        cases fetched with
        | error t =>
            cases houtcome
            exact .inr ⟨location, t, rfl, hu, rfl⟩
        | ok r => exact .inl (hfault houtcome)
      · exact .inl (hfault hx.symm)

/-- The credential of a token expires with it, later by the tolerance, if that can be represented. -/
theorem expirationOf_eq_some_iff {grace : Nat} {e : Instant} (hgrace : grace ≤ 86400)
    (hpositive : 0 ≤ c.expiration) :
    expirationOf c grace = some e ↔
      Instant.Datable (c.expiration + grace) ∧ e = ⟨c.expiration + grace, 0⟩ := by
  have hspans : Instant.Spans grace := by
    rw [Instant.Spans]
    omega
  -- no token expires before 1970, so that only the later end of the calendar is in question
  have hearlier : Instant.Datable (c.expiration + grace) → Instant.Datable c.expiration := by
    intro hsum
    rw [Instant.datable_iff] at hsum ⊢
    omega
  rw [expirationOf, Option.bind_eq_some_iff]
  constructor
  · rintro ⟨t, ht, hadd⟩
    rcases Option.ite_none_right_eq_some.1 ht with ⟨_, ht'⟩
    cases ht'
    rcases Instant.addSeconds?_eq_some.1 hadd with ⟨⟨_, hsum⟩, rfl⟩
    exact ⟨hsum, rfl⟩
  · rintro ⟨hsum, rfl⟩
    have hfirst : Instant.ofSeconds? c.expiration = some ⟨c.expiration, 0⟩ :=
      Option.ite_none_right_eq_some.2 ⟨Instant.inRange_iff.2 (hearlier hsum), rfl⟩
    exact ⟨_, hfirst, Instant.addSeconds?_eq_some.2 ⟨⟨hspans, hsum⟩, rfl⟩⟩

/-- Once a token has passed every other check, the sum decides. -/
theorem accept_of_checked {issuer : Url} (hgrace : settings.grace ≤ 86400)
    (hclaims : claims token h key = .ok (c, limits))
    (hcheck : limits.check settings.audience settings.grace now = .ok ())
    (hissuer : Url.parse c.issuer = .ok issuer) :
    (Instant.Datable (c.expiration + settings.grace) →
      accept settings token h key now =
        .ok ⟨credentialOf token c issuer ⟨c.expiration + settings.grace, 0⟩, sessionOf c⟩) ∧
    (¬ Instant.Datable (c.expiration + settings.grace) →
      accept settings token h key now = .error .expOutOfRange) := by
  rcases LimitClaims.check_eq_ok.1 hcheck with ⟨⟨n, hn, _⟩, _⟩
  have hpositive : 0 ≤ c.expiration := by
    rw [(expiration_of_claims hclaims hn).2]
    exact Int.natCast_nonneg n
  have hends : ∀ {e}, expirationOf c settings.grace = some e ↔ _ :=
    expirationOf_eq_some_iff hgrace hpositive
  refine ⟨fun hsum => ?_, fun hnot => ?_⟩
  · exact accept_eq_ok.2 ⟨c, limits, issuer, _, hclaims, hcheck, hissuer, hends.2 ⟨hsum, rfl⟩, rfl⟩
  · have hnone : expirationOf c settings.grace = none := by
      rw [Option.eq_none_iff_forall_ne_some]
      intro e he
      exact hnot (hends.1 he).1
    rw [accept, mapError_eq_ok.2 hclaims]
    dsimp only [Bind.bind, Except.bind]
    rw [mapError_eq_ok.2 hcheck, mapError_eq_ok.2 hissuer]
    dsimp only
    rw [hnone]
    rfl

/-- What an accepted token claims has a sum that can be represented, and its credential expires then. -/
theorem dated_of_walk {v : VerifiedToken} (hwalk : Walk (verify settings token) u (done (.ok v))) :
    ∃ u' now exp, u = u' ++ [⟨.clock, now⟩] ∧ Token.expiration? token = some exp ∧
      Instant.Datable (exp + settings.grace) ∧ v.credential.expiration = ⟨exp + settings.grace, 0⟩ := by
  rcases judged_of_walk hwalk with ⟨h, key, u', now, rfl, hjudge, haccept⟩
  rcases accept_eq_ok.1 haccept with
    ⟨c, limits, issuer, expiration, hclaims, hcheck, hissuer, hexpiration, rfl⟩
  rcases LimitClaims.check_eq_ok.1 hcheck with ⟨⟨n, hn, _⟩, _⟩
  rcases expiration_of_claims hclaims hn with ⟨hclaimed, hc⟩
  have hpositive : 0 ≤ c.expiration := by
    rw [hc]
    exact Int.natCast_nonneg n
  rcases (expirationOf_eq_some_iff (grace_of_walk_judge hjudge) hpositive).1 hexpiration with ⟨hsum, rfl⟩
  rw [hc] at hsum
  refine ⟨u', now, n, rfl, hclaimed, hsum, ?_⟩
  rw [credentialOf, hc]

/-- The expiry check subtracts the tolerance from the clock in unsigned words.  Within the limit of a day
nothing wraps, so that the words compare as the numbers do. -/
theorem expired_words_iff {exp clock grace : Nat} (hexp : exp < 2 ^ 64) (hclock : clock < 2 ^ 64)
    (hday : 86400 ≤ clock) (hgrace : grace ≤ 86400) :
    UInt64.ofNat exp < UInt64.ofNat clock - UInt64.ofNat grace ↔ (exp : Int) < (clock : Int) - grace := by
  have hword : ∀ {n : Nat}, n < 2 ^ 64 → (UInt64.ofNat n).toNat = n := UInt64.toNat_ofNat_of_lt'
  have htolerance := hword (by omega : grace < 2 ^ 64)
  have hle : UInt64.ofNat grace ≤ UInt64.ofNat clock := by
    rw [UInt64.le_iff_toNat_le, htolerance, hword hclock]
    omega
  rw [UInt64.lt_iff_toNat_lt, UInt64.toNat_sub_of_le _ _ hle, hword hexp, hword hclock, htolerance]
  omega

/-- How the credentials of identity tokens are dated. -/
structure Dating (settings : VerificationSettings) : Prop where
  /-- A credential expires exactly when its token does, later by the tolerance. -/
  accepted : ∀ token u v, Walk (verify settings token) u (done (.ok v)) →
    ∃ u' now exp, u = u' ++ [⟨.clock, now⟩] ∧ Token.expiration? token = some exp ∧
      Instant.Datable (exp + settings.grace) ∧ v.credential.expiration = ⟨exp + settings.grace, 0⟩
  /-- A sum that cannot be represented is refused as a fault of the token, unless the keys cannot be
  asked for. -/
  refused : ∀ token exp u x, Token.expiration? token = some exp →
    ¬ Instant.Datable (exp + settings.grace) → Walk (verify settings token) u (done x) →
    (∃ fault, x = .error (.invalidCredential fault)) ∨
      ∃ location t, settings.keyLocation = some location ∧
        u = [⟨.transmit (keyRequest location), .error t⟩] ∧ x = .error (.transport t)
  /-- A token that has passed every other check is accepted if the sum can be represented, and refused
  for this sum alone if not. -/
  decided : ∀ token u h key c limits issuer now,
    Walk (verify settings token) u (judge settings token h key) →
    claims token h key = .ok (c, limits) →
    limits.check settings.audience settings.grace now = .ok () → Url.parse c.issuer = .ok issuer →
    (Instant.Datable (c.expiration + settings.grace) →
      Walk (verify settings token) (u ++ [⟨.clock, now⟩]) (done (.ok
        ⟨credentialOf token c issuer ⟨c.expiration + settings.grace, 0⟩, sessionOf c⟩))) ∧
    (¬ Instant.Datable (c.expiration + settings.grace) →
      Walk (verify settings token) (u ++ [⟨.clock, now⟩])
        (done (.error (.invalidCredential .expOutOfRange))))
  /-- A tolerance beyond a day is refused before anything is asked. -/
  limited : 24 * 60 * 60 < settings.grace →
    ∀ token, ∃ fault, verify settings token = done (.error (.invalidCredential fault))
  /-- Where a token comes to be judged, the expiry check in words is the one in numbers: it is made on
  clocks that show a day of 1970 or later, which no tolerance reaches behind. -/
  unwrapped : ∀ token u h key, Walk (verify settings token) u (judge settings token h key) →
    ∀ exp clock : Nat, exp < 2 ^ 64 → clock < 2 ^ 64 → 86400 ≤ clock →
      (UInt64.ofNat exp < UInt64.ofNat clock - UInt64.ofNat settings.grace ↔
        (exp : Int) < (clock : Int) - settings.grace)

theorem dating (settings : VerificationSettings) : Dating settings where
  accepted _ _ _ hwalk := dated_of_walk hwalk
  refused token exp u x hclaimed hnot hwalk := by
    cases x with
    | error e =>
        rcases fault_of_walk hwalk with ⟨fault, rfl⟩ | ⟨location, t, hlocation, hu, rfl⟩
        · exact .inl ⟨fault, rfl⟩
        · exact .inr ⟨location, t, hlocation, hu, rfl⟩
    | ok v =>
        rcases dated_of_walk hwalk with ⟨_, _, exp', _, hclaimed', hsum, _⟩
        cases hclaimed.symm.trans hclaimed'
        exact absurd hsum hnot
  decided token u h key c limits issuer now hjudge hclaims hcheck hissuer := by
    have hgrace := grace_of_walk_judge hjudge
    rcases accept_of_checked hgrace hclaims hcheck hissuer with ⟨hpasses, hfails⟩
    have hlast : Walk (judge settings token h key) [⟨.clock, now⟩]
        (done ((accept settings token h key now).mapError .invalidCredential)) := .answered (.here _)
    refine ⟨fun hsum => ?_, fun hnot => ?_⟩
    · rw [hpasses hsum] at hlast
      exact hjudge.append hlast
    · rw [hfails hnot] at hlast
      exact hjudge.append hlast
  limited hgrace token := verify_of_overlong token hgrace
  unwrapped token u h key hjudge exp clock hexp hclock hday :=
    expired_words_iff hexp hclock hday (grace_of_walk_judge hjudge)

end IdToken

/-- Whatever numbers a server, a token or the settings name, the credential that comes of them expires at
the exact sum, and a sum that cannot be represented is refused. -/
theorem exact_lifetimes : TicketProvider.Dating ∧ ∀ settings, IdToken.Dating settings :=
  ⟨TicketProvider.dating, IdToken.dating⟩

end Countersign
