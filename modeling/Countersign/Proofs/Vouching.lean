import Countersign.Proofs.Audience
import Countersign.Proofs.Footprint

/-!
# Vouching — tokens are accepted on the word of a published key

Settings can name a location of signing keys.  A token then passes only if the keys were fetched there,
once, and the key that its header names has signed it.  The algorithm is the token's own choice; what
keeps the choice honest is that the key has to be of the family of the algorithm.

* `Token.Verifies` — whether a text is the signature of a message by a key;
* `KeySet.Picks` — the key of a set that a header names;
* `IdToken.Vouched` — an answer with published keys vouches for a token;
* `IdToken.Unfit` — answers that vouch for nothing, with the error that each leads to;
* `IdToken.vouching` — verification and sessions rest on vouched tokens.
-/

namespace Countersign

open Program

/-! ## Signatures -/

namespace Token

/-- Whether a text is the signature of a message: a shared secret signs again and the texts are
compared, of all other keys the octets are checked. -/
def Verifies (a : SignatureAlgorithm) (key : VerificationKey) (message : Bytes)
    (signature : String) : Prop :=
  match key with
  | .shared secret => signature = Base64.encodeUrl (a.digest.authenticate secret message)
  | key => ∃ octets, Base64.decodeUrl? signature = some octets ∧ holds a key message octets = true

theorem checkSignature_eq_ok {a : SignatureAlgorithm} {key : VerificationKey} {message : Bytes}
    {signature : String} (hfamily : key.family = a.family) :
    checkSignature a key message signature = .ok () ↔ Verifies a key message signature := by
  cases key with
  | shared secret =>
      have hshared : a.family = .shared := hfamily.symm
      simp [checkSignature, Verifies, hshared]
  | _ =>
      unfold checkSignature Verifies
      dsimp only
      cases Base64.decodeUrl? signature with
      | none => simp
      | some octets => simp

end Token

/-! ## Published keys -/

namespace KeySet

/-- Whether a key is the one that a header names: the first key with the identifier, or the first of
all if the header has none. -/
def Picks (s : KeySet) (identifier : Option String) (k : PublishedKey) : Prop :=
  ∃ before after, s.keys = before ++ k :: after ∧
    match identifier with
    | some name => k.identifier = some name ∧ ∀ o ∈ before, o.identifier ≠ some name
    | none => before = []

theorem find?_eq_some_iff {s : KeySet} {identifier : Option String} {k : PublishedKey} :
    s.find? identifier = some k ↔ s.Picks identifier k := by
  cases identifier with
  | none =>
      unfold find? Picks
      rw [List.head?_eq_some_iff]
      constructor
      · rintro ⟨after, hkeys⟩
        exact ⟨[], after, hkeys, rfl⟩
      · rintro ⟨_, after, hkeys, rfl⟩
        exact ⟨after, hkeys⟩
  | some name =>
      unfold find? Picks
      rw [List.find?_eq_some_iff_append]
      simp only [beq_iff_eq, Bool.not_eq_eq_eq_not, Bool.not_true, beq_eq_false_iff_ne]
      constructor
      · rintro ⟨hname, before, after, hkeys, hbefore⟩
        exact ⟨before, after, hkeys, hname, hbefore⟩
      · rintro ⟨before, after, hkeys, hname, hbefore⟩
        exact ⟨hname, before, after, hkeys, hbefore⟩

theorem Picks.mem {s : KeySet} {identifier : Option String} {k : PublishedKey}
    (h : s.Picks identifier k) : k ∈ s.keys := by
  rcases h with ⟨before, after, hkeys, _⟩
  rw [hkeys]
  simp

end KeySet

/-- The family of a key is that of the parts that it was published with. -/
theorem VerificationKey.shared_of_ofMaterial? {m : KeyMaterial} {key : VerificationKey}
    (h : ofMaterial? m = some key) (hshared : key.family = .shared) :
    ∃ secret, m = .shared secret := by
  cases m with
  | shared secret => exact ⟨secret, rfl⟩
  | edwards x =>
      rcases Option.map_eq_some_iff.1 h with ⟨_, _, rfl⟩
      cases hshared
  | _ =>
      rcases Option.bind_eq_some_iff.1 h with ⟨_, _, h'⟩
      rcases Option.bind_eq_some_iff.1 h' with ⟨_, _, h''⟩
      cases h''
      cases hshared

namespace IdToken

variable {settings : VerificationSettings} {location : Url} {token : String} {h : TokenHeader}
  {key : VerificationKey} {answer : Response} {u : Transcript World}

/-! ## Answers with keys -/

/-- An answer vouches for a token: it is a success with a set of keys, and the key of the set that the
header of the token names is of the family of the header's algorithm and has signed the token. -/
structure Vouched (answer : Response) (token : String) (h : TokenHeader) (key : VerificationKey) :
    Prop where
  success : Status.isSuccess answer.status = true
  header : TokenHeader.ofToken token = .ok h
  published : ∃ keys k, KeySet.parse? answer.body = some keys ∧ keys.Picks h.keyIdentifier k ∧
    VerificationKey.ofMaterial? k.material = some key
  family : key.family = h.algorithm.family
  signed : ∃ parts, Token.split? token = some parts ∧
    Token.Verifies h.algorithm key (Token.signed parts.header parts.payload) parts.signature

theorem ofToken_unaddressed :
    TokenHeader.ofToken unaddressed = .ok ⟨.hs256, none, none, none⟩ := by cbv

/-- A set of one secret vouches for the token that the secret has signed. -/
example : Vouched
    ⟨location, 200, {}, Utf8.encode "\x7b\"keys\":[\x7b\"kty\":\"oct\",\"k\":\"c2VjcmV0\"\x7d]\x7d"⟩
    unaddressed ⟨.hs256, none, none, none⟩ (.shared (Utf8.encode "secret")) where
  success := rfl
  header := ofToken_unaddressed
  published := by
    refine ⟨⟨[⟨none, .shared "c2VjcmV0"⟩]⟩, _, by cbv, ⟨[], [], rfl, rfl⟩, ?_⟩
    decide +kernel
  family := rfl
  signed := by
    let payload := "eyJpc3MiOiJ1cm46aSIsInN1YiI6ImEiLCJpYXQiOjAsImV4cCI6NDEwMjQ0NDgwMH0"
    have hparts : Token.split? unaddressed =
        some ⟨"eyJhbGciOiJIUzI1NiJ9", payload, "BvSu1I2WljpX8tW67ha5dWVLBPSN8oAj5BWT_q5RlOs"⟩ := by
      cbv
    have hsignature : "BvSu1I2WljpX8tW67ha5dWVLBPSN8oAj5BWT_q5RlOs" =
        Base64.encodeUrl (SignatureAlgorithm.hs256.digest.authenticate (Utf8.encode "secret")
          (Token.signed "eyJhbGciOiJIUzI1NiJ9" payload)) := by
      decide +kernel
    exact ⟨_, hparts, hsignature⟩

/-- Answers to a request for keys that give no key for an identifier, with the error that follows. -/
inductive Unfit (location : Url) (identifier : Option String) :
    Except TransportError Response → AuthError → Prop where
  | unanswered (e : TransportError) : Unfit location identifier (.error e) (.transport e)
  | unsuccessful {r : Response} : Status.isSuccess r.status = false →
      Unfit location identifier (.ok r)
        (.invalidCredential (.keysNotFetched location.toString r.status))
  | malformed {r : Response} : Status.isSuccess r.status = true → KeySet.parse? r.body = none →
      Unfit location identifier (.ok r) (.invalidCredential (.keysMalformed location.toString))
  | empty {r : Response} {keys : KeySet} : Status.isSuccess r.status = true →
      KeySet.parse? r.body = some keys → keys.keys = [] →
      Unfit location identifier (.ok r) (.invalidCredential (.noMatchingKey location.toString))
  | unknown {r : Response} {keys : KeySet} {name : String} : Status.isSuccess r.status = true →
      KeySet.parse? r.body = some keys → identifier = some name →
      (∀ k ∈ keys.keys, k.identifier ≠ some name) →
      Unfit location identifier (.ok r) (.invalidCredential (.noMatchingKey location.toString))
  | unusable {r : Response} {keys : KeySet} {k : PublishedKey} : Status.isSuccess r.status = true →
      KeySet.parse? r.body = some keys → keys.Picks identifier k →
      VerificationKey.ofMaterial? k.material = none →
      Unfit location identifier (.ok r) (.invalidCredential (.unusableKey .badBase64))

/-- What a request for keys comes to. -/
def keyOutcome (location : Url) (identifier : Option String) :
    Except TransportError Response → Except AuthError VerificationKey
  | .error e => .error (.transport e)
  | .ok r => (keyFrom location identifier r).mapError .invalidCredential

theorem keyOutcome_of_unfit {identifier : Option String} {e : AuthError}
    {fetched : Except TransportError Response} (hunfit : Unfit location identifier fetched e) :
    keyOutcome location identifier fetched = .error e := by
  cases hunfit with
  | unanswered e => rfl
  | unsuccessful hstatus => simp [keyOutcome, keyFrom, hstatus, Except.mapError]
  | malformed hstatus hkeys => simp [keyOutcome, keyFrom, hstatus, hkeys, Except.mapError]
  | @empty r keys hstatus hkeys hempty =>
      have hnone : keys.find? identifier = none := by
        cases identifier with
        | none => simpa [KeySet.find?] using hempty
        | some name => simp [KeySet.find?, hempty]
      simp [keyOutcome, keyFrom, hstatus, hkeys, hnone, Except.mapError]
  | @unknown r keys name hstatus hkeys hname hunknown =>
      subst hname
      have hnone : keys.find? (some name) = none := by
        simpa [KeySet.find?] using hunknown
      simp [keyOutcome, keyFrom, hstatus, hkeys, hnone, Except.mapError]
  | unusable hstatus hkeys hpick hmaterial =>
      have hfound := KeySet.find?_eq_some_iff.2 hpick
      simp [keyOutcome, keyFrom, hstatus, hkeys, hfound, hmaterial, Except.mapError]

/-- A key comes from an answer that is a success, and it is the one that the identifier names. -/
theorem published_of_keyFrom {identifier : Option String}
    (hkey : keyFrom location identifier answer = .ok key) :
    Status.isSuccess answer.status = true ∧ ∃ keys k, KeySet.parse? answer.body = some keys ∧
      keys.Picks identifier k ∧ VerificationKey.ofMaterial? k.material = some key := by
  unfold keyFrom at hkey
  cases hstatus : Status.isSuccess answer.status with
  | false =>
      rw [hstatus] at hkey
      cases hkey
  | true =>
      rw [hstatus, if_neg (by simp)] at hkey
      cases hkeys : KeySet.parse? answer.body with
      | none =>
          rw [hkeys] at hkey
          cases hkey
      | some keys =>
          rw [hkeys] at hkey
          dsimp only at hkey
          cases hfound : keys.find? identifier with
          | none =>
              rw [hfound] at hkey
              cases hkey
          | some k =>
              rw [hfound] at hkey
              dsimp only at hkey
              cases hmaterial : VerificationKey.ofMaterial? k.material with
              | none =>
                  rw [hmaterial] at hkey
                  cases hkey
              | some key' =>
                  rw [hmaterial] at hkey
                  cases hkey
                  exact ⟨rfl, keys, k, rfl, KeySet.find?_eq_some_iff.1 hfound, hmaterial⟩

/-- Claims are read with a key only if the key has signed the token. -/
theorem signed_of_claims {c : IdentityClaims} {limits : LimitClaims}
    (hclaims : claims token h (some key) = .ok (c, limits)) :
    key.family = h.algorithm.family ∧ ∃ parts, Token.split? token = some parts ∧
      Token.Verifies h.algorithm key (Token.signed parts.header parts.payload) parts.signature := by
  unfold claims at hclaims
  cases hparts : Token.split? token with
  | none =>
      rw [hparts] at hclaims
      cases hclaims
  | some parts =>
      rw [hparts] at hclaims
      dsimp only at hclaims
      by_cases hfamily : key.family = h.algorithm.family
      · rw [if_neg (not_not.2 hfamily)] at hclaims
        refine ⟨hfamily, parts, rfl, (Token.checkSignature_eq_ok hfamily).1 ?_⟩
        cases hcheck : Token.checkSignature h.algorithm key
            (Token.signed parts.header parts.payload) parts.signature with
        | error e =>
            rw [hcheck] at hclaims
            cases hclaims
        | ok _ => rfl
      · rw [if_pos hfamily] at hclaims
        cases hclaims

/-- A token that a key has signed claims with the key what it claims without. -/
theorem claims_of_vouched (hvouched : Vouched answer token h key) :
    claims token h (some key) = claims token h none := by
  rcases hvouched.signed with ⟨parts, hparts, hverifies⟩
  have hcheck := (Token.checkSignature_eq_ok hvouched.family).2 hverifies
  unfold claims
  rw [hparts]
  dsimp only
  rw [if_neg (not_not.2 hvouched.family), hcheck]
  rfl

theorem keyOutcome_of_vouched (hvouched : Vouched answer token h key) :
    keyOutcome location h.keyIdentifier (.ok answer) = .ok key := by
  rcases hvouched.published with ⟨keys, k, hkeys, hpicks, hmaterial⟩
  have hfound := KeySet.find?_eq_some_iff.2 hpicks
  simp [keyOutcome, keyFrom, hvouched.success, hkeys, hfound, hmaterial, Except.mapError]

/-- Without shared secrets among the published keys a token is vouched for by octets that a public
key has signed. -/
theorem Vouched.publicly {keys : KeySet} (hvouched : Vouched answer token h key)
    (hkeys : KeySet.parse? answer.body = some keys)
    (hpublic : ∀ k ∈ keys.keys, ∀ secret, k.material ≠ .shared secret) :
    h.algorithm.family ≠ .shared ∧ ∃ parts octets, Token.split? token = some parts ∧
      Base64.decodeUrl? parts.signature = some octets ∧
      Token.holds h.algorithm key (Token.signed parts.header parts.payload) octets = true := by
  rcases hvouched.published with ⟨keys', k, hkeys', hpicks, hmaterial⟩
  cases hkeys.symm.trans hkeys'
  have hfamily : key.family ≠ .shared := by
    intro hshared
    rcases VerificationKey.shared_of_ofMaterial? hmaterial hshared with ⟨secret, hsecret⟩
    exact hpublic k hpicks.mem secret hsecret
  refine ⟨hvouched.family ▸ hfamily, ?_⟩
  rcases hvouched.signed with ⟨parts, hparts, hverifies⟩
  cases key with
  | shared secret => exact absurd rfl hfamily
  | _ =>
      rcases hverifies with ⟨octets, hoctets, hholds⟩
      exact ⟨parts, octets, hparts, hoctets, hholds⟩

/-! ## Walks of the verification -/

theorem fetchKey_of_walk {identifier : Option String} {x : Except AuthError VerificationKey}
    (hwalk : Walk (fetchKey location identifier) u (done x)) :
    ∃ fetched, u = [⟨.transmit (keyRequest location), fetched⟩] ∧
      x = keyOutcome location identifier fetched := by
  rcases walk_ask_iff.1 hwalk with ⟨_, hx⟩ | ⟨fetched, u', rfl, hrest⟩
  · cases hx
  · rcases fetched with e | r
    all_goals
      rcases walk_done_iff.1 hrest with ⟨rfl, hx⟩
      cases hx
      exact ⟨_, rfl, rfl⟩

theorem judge_of_walk {found : Option VerificationKey} {x : Except AuthError VerifiedToken}
    (hwalk : Walk (judge settings token h found) u (done x)) :
    ∃ now, u = [⟨.clock, now⟩] ∧
      x = (accept settings token h found now).mapError .invalidCredential := by
  rcases walk_ask_iff.1 hwalk with ⟨_, hx⟩ | ⟨now, u', rfl, hrest⟩
  · cases hx
  · rcases walk_done_iff.1 hrest with ⟨rfl, hx⟩
    cases hx
    exact ⟨now, rfl, rfl⟩

/-- What a verification accepts it has judged at last, whether it fetched a key before or not. -/
theorem judged_of_walk {v : VerifiedToken} (hwalk : Walk (verify settings token) u (done (.ok v))) :
    ∃ h found u' now, u = u' ++ [⟨.clock, now⟩] ∧
      Walk (verify settings token) u' (judge settings token h found) ∧
      accept settings token h found now = .ok v := by
  unfold verify at hwalk ⊢
  cases hheader : header settings token with
  | error fault =>
      rw [hheader] at hwalk
      rcases walk_done_iff.1 hwalk with ⟨_, hx⟩
      cases hx
  | ok h =>
      rw [hheader] at hwalk
      cases hlocation : settings.keyLocation with
      | none =>
          -- where no keys are published the token is judged without one
          simp only [hlocation] at hwalk ⊢
          rcases judge_of_walk hwalk with ⟨now, hu, hx⟩
          exact ⟨h, none, [], now, hu, .here _, mapError_eq_ok.1 hx.symm⟩
      | some location =>
          simp only [hlocation] at hwalk ⊢
          rcases hwalk.of_bind_done with ⟨found, u₁, u₂, hu, hfetch, hrest⟩
          cases found with
          | error e =>
              rcases walk_done_iff.1 hrest with ⟨_, hx⟩
              cases hx
          | ok key =>
              rcases judge_of_walk hrest with ⟨now, rfl, hx⟩
              exact ⟨h, some key, u₁, now, hu, hfetch.bind _, mapError_eq_ok.1 hx.symm⟩

theorem walk_unaddressed {now : Instant} (hnow : now.seconds ≤ 4102444800) :
    Walk (verify {} unaddressed) [⟨.clock, now⟩] (done (.ok unaddressedVerified)) := by
  have hheader : header {} unaddressed = .ok ⟨.hs256, none, none, none⟩ := by
    rw [header, ofToken_unaddressed]
    rfl
  have hpasses : (accept {} unaddressed ⟨.hs256, none, none, none⟩ none now).mapError
      AuthError.invalidCredential = .ok unaddressedVerified :=
    mapError_eq_ok.2 (accept_unaddressed hnow)
  rw [verify, hheader, ← hpasses]
  exact .answered (.here _)

/-- What can be said of a token in advance includes its header. -/
theorem ofToken_of_header (hheader : header settings token = .ok h) :
    TokenHeader.ofToken token = .ok h := by
  unfold header at hheader
  rcases bind_eq_ok.1 hheader with ⟨h', hok, hrest⟩
  split at hrest
  · cases hrest
  · cases hrest
    exact mapError_eq_ok.1 hok

/-- With a location of keys a verification fetches a key for the header that it has read. -/
theorem verify_of_walk {x : Except AuthError VerifiedToken}
    (hlocation : settings.keyLocation = some location)
    (hwalk : Walk (verify settings token) u (done x)) :
    (∃ fault, header settings token = .error fault ∧ u = [] ∧ x = .error (.invalidCredential fault)) ∨
      ∃ h fetched, TokenHeader.ofToken token = .ok h ∧
        ((∃ e, keyOutcome location h.keyIdentifier fetched = .error e ∧
            u = [⟨.transmit (keyRequest location), fetched⟩] ∧ x = .error e) ∨
          ∃ key now, keyOutcome location h.keyIdentifier fetched = .ok key ∧
            u = [⟨.transmit (keyRequest location), fetched⟩, ⟨.clock, now⟩] ∧
            x = (accept settings token h (some key) now).mapError .invalidCredential) := by
  unfold verify at hwalk
  cases hheader : header settings token with
  | error fault =>
      rw [hheader] at hwalk
      rcases walk_done_iff.1 hwalk with ⟨rfl, hx⟩
      cases hx
      exact .inl ⟨fault, rfl, rfl, rfl⟩
  | ok h =>
      rw [hheader] at hwalk
      simp only [hlocation] at hwalk
      rcases hwalk.of_bind_done with ⟨found, u₁, u₂, rfl, hfetch, hrest⟩
      rcases fetchKey_of_walk hfetch with ⟨fetched, rfl, hfound⟩
      refine .inr ⟨h, fetched, ofToken_of_header hheader, ?_⟩
      cases found with
      | error e =>
          rcases walk_done_iff.1 hrest with ⟨rfl, hx⟩
          cases hx
          exact .inl ⟨e, hfound.symm, rfl, rfl⟩
      | ok key =>
          rcases judge_of_walk hrest with ⟨now, rfl, hx⟩
          exact .inr ⟨key, now, hfound.symm, rfl, hx⟩

/-- A verification has accepted a token: it fetched the keys of the location once, and the answer
vouches for the token. -/
def Admission (location : Url) (token : String) (u : Transcript World) (v : VerifiedToken) : Prop :=
  ∃ request answer now h key, request.method = "GET" ∧ request.uri = location ∧
    u = [⟨.transmit request, .ok answer⟩, ⟨.clock, now⟩] ∧ Vouched answer token h key ∧
      v.credential.token = token

theorem admission_of_walk {v : VerifiedToken} (hlocation : settings.keyLocation = some location)
    (hwalk : Walk (verify settings token) u (done (.ok v))) : Admission location token u v := by
  rcases verify_of_walk hlocation hwalk with
    ⟨fault, _, _, hx⟩ | ⟨h, fetched, hheader, ⟨e, _, _, hx⟩ | ⟨key, now, hfetched, hu, hx⟩⟩
  · cases hx
  · cases hx
  · -- only a response gives a key
    cases fetched with
    | error e => cases hfetched
    | ok answer =>
        rcases published_of_keyFrom (mapError_eq_ok.1 hfetched) with ⟨hsuccess, hpublished⟩
        rcases accept_eq_ok.1 (mapError_eq_ok.1 hx.symm) with
          ⟨c, limits, issuer, expiration, hclaims, _, _, _, rfl⟩
        rcases signed_of_claims hclaims with ⟨hfamily, hsigned⟩
        exact ⟨keyRequest location, answer, now, h, key, rfl, rfl, hu,
          ⟨hsuccess, hheader, hpublished, hfamily, hsigned⟩, rfl⟩

/-- A verification that has asked for keys goes by the answer. -/
theorem verify_of_walk_cons {fetched : Except TransportError Response}
    {x : Except AuthError VerifiedToken} (hlocation : settings.keyLocation = some location)
    (hheader : TokenHeader.ofToken token = .ok h)
    (hwalk : Walk (verify settings token)
      ((⟨.transmit (keyRequest location), fetched⟩ : Entry World) :: u) (done x)) :
    (∃ e, keyOutcome location h.keyIdentifier fetched = .error e ∧ u = [] ∧ x = .error e) ∨
      ∃ key now, keyOutcome location h.keyIdentifier fetched = .ok key ∧ u = [⟨.clock, now⟩] ∧
        x = (accept settings token h (some key) now).mapError .invalidCredential := by
  rcases verify_of_walk hlocation hwalk with ⟨fault, _, hu, _⟩ | ⟨h', fetched', hheader', hrest⟩
  · cases hu
  · cases hheader.symm.trans hheader'
    rcases hrest with ⟨e, houtcome, hu, hx⟩ | ⟨key, now, houtcome, hu, hx⟩
    · cases hu
      exact .inl ⟨e, houtcome, rfl, hx⟩
    · cases hu
      exact .inr ⟨key, now, houtcome, rfl, hx⟩

end IdToken

/-! ## Sessions -/

namespace Session

theorem renew_eq (number : SessionId) (settings : VerificationSettings) :
    renew number settings = ask (I := World) .pause fun _ =>
      ask (I := World) (.freshToken number) fun fresh =>
        match fresh with
        | .error e => done (.error e)
        | .ok token => (IdToken.verify settings token).bind fun verified =>
          match verified with
          | .error e => done (.error e)
          | .ok v => done (.ok (some v.credential)) := rfl

/-- A refresh gives the credential of a fresh token that has been accepted. -/
theorem renew_of_walk {number : SessionId} {settings : VerificationSettings}
    {u : Transcript World} {c : Credential}
    (hwalk : Walk (renew number settings) u (done (.ok (some c)))) :
    ∃ token u' v, u = ⟨.pause, ()⟩ :: ⟨.freshToken number, .ok token⟩ :: u' ∧
      Walk (IdToken.verify settings token) u' (done (.ok v)) ∧ c = v.credential := by
  rw [renew_eq] at hwalk
  rcases walk_ask_iff.1 hwalk with ⟨_, hq⟩ | ⟨_, u₁, rfl, h₁⟩
  · cases hq
  · rcases walk_ask_iff.1 h₁ with ⟨_, hq⟩ | ⟨fresh, u₂, rfl, h₂⟩
    · cases hq
    · cases fresh with
      | error e =>
          rcases walk_done_iff.1 h₂ with ⟨_, hq⟩
          cases hq
      | ok token =>
          rcases h₂.of_bind_done with ⟨verified, u₃, u₄, rfl, hverify, h₃⟩
          rcases verified with e | v
          all_goals
            rcases walk_done_iff.1 h₃ with ⟨rfl, hq⟩
            cases hq
          exact ⟨token, u₃, v, by simp, hverify, rfl⟩

/-- A session writes into its slot what its refresh has come to. -/
theorem settle_of_walk {s : Session} {name : String} {u : Transcript World} {i : SessionId}
    {outcome : Except String (Option Credential)} {next : Instant → Run Slot.Outcome}
    (hwalk : Walk (s.credential name) u (ask (I := World) (.settle i outcome) next)) :
    i = s.number ∧ ∃ x y u' own, u = Slot.opening s.number x y ++ u' ∧
      y.1.generation = x.1.generation ∧ Walk s.refresh u' (done own) ∧
      outcome = Slot.outcomeText own := by
  have hrefresh : s.refresh.Only fun op : Act => ∀ o, op ≠ .settle i o := by
    refine s.refresh_only.mono ?_
    rintro op hop o rfl
    exact hop
  unfold credential at hwalk
  cases hidentity : s.identity with
  | anonymous =>
      rw [hidentity] at hwalk
      rcases walk_done_iff.1 hwalk with ⟨_, hq⟩
      cases hq
  | openId settings renewable =>
      rw [hidentity] at hwalk
      dsimp only at hwalk
      split at hwalk
      · exact Slot.settle_of_walk hrefresh hwalk
      · rcases walk_done_iff.1 hwalk with ⟨_, hq⟩
        cases hq

/-- A session begins with a token that has been accepted. -/
theorem begun_of_walk {number : SessionId} {cache : CacheSettings} {settings : VerificationSettings}
    {token : String} {u : Transcript World} {s : Session}
    (hwalk : Walk (ofToken number cache settings token) u (done (.ok s))) :
    ∃ u' v, u = u' ++ [⟨.establish number cache (some v.credential), ()⟩] ∧
      Walk (IdToken.verify settings token) u' (done (.ok v)) ∧
      s = ⟨number, v.session, .openId settings false⟩ := by
  rcases hwalk.of_bind_done with ⟨verified, u₁, u₂, rfl, hverify, hrest⟩
  cases verified with
  | error e =>
      rcases walk_done_iff.1 hrest with ⟨_, hq⟩
      cases hq
  | ok v =>
      rcases walk_ask_iff.1 hrest with ⟨_, hq⟩ | ⟨_, u₃, rfl, hend⟩
      · cases hq
      · rcases walk_done_iff.1 hend with ⟨rfl, hs⟩
        cases hs
        exact ⟨u₁, v, rfl, hverify, rfl⟩

end Session

namespace IdToken

/-! ## What vouching comes to -/

/-- With a location of keys, verifications and sessions rest on tokens that are vouched for. -/
structure Vouching (settings : VerificationSettings) (location : Url) : Prop where
  /-- Whatever is accepted has been vouched for, by the answer to the only request. -/
  accepted : ∀ token u v, Walk (verify settings token) u (done (.ok v)) → Admission location token u v
  /-- An answer that vouches for a token leaves the decision to what the token claims. -/
  decided : ∀ token h key answer u x, Vouched answer token h key →
    Walk (verify settings token)
      ((⟨.transmit (keyRequest location), .ok answer⟩ : Entry World) :: u) (done x) →
    ∃ now, u = [⟨.clock, now⟩] ∧
      x = (accept settings token h none now).mapError .invalidCredential
  /-- An answer that gives no key refuses the token. -/
  refused : ∀ token h fetched e u x, TokenHeader.ofToken token = .ok h →
    Unfit location h.keyIdentifier fetched e →
    Walk (verify settings token)
      ((⟨.transmit (keyRequest location), fetched⟩ : Entry World) :: u) (done x) →
    u = [] ∧ x = .error e
  /-- Where no shared secret is published, only signatures by public keys vouch. -/
  publicly : ∀ token h key answer keys, Vouched answer token h key →
    KeySet.parse? answer.body = some keys →
    (∀ k ∈ keys.keys, ∀ secret, k.material ≠ .shared secret) →
    h.algorithm.family ≠ .shared ∧ ∃ parts octets, Token.split? token = some parts ∧
      Base64.decodeUrl? parts.signature = some octets ∧
      Token.holds h.algorithm key (Token.signed parts.header parts.payload) octets = true
  /-- A session begins with an admitted token. -/
  begun : ∀ number cache token u s,
    Walk (Session.ofToken number cache settings token) u (done (.ok s)) →
    ∃ u' v, u = u' ++ [⟨.establish number cache (some v.credential), ()⟩] ∧
      Admission location token u' v
  /-- A session that refreshes puts the credential of an admitted token into its slot. -/
  refilled : ∀ (s : Session) renewable name u i c next, s.identity = .openId settings renewable →
    Walk (s.credential name) u (ask (I := World) (.settle i (.ok (some c))) next) →
    i = s.number ∧ ∃ x y token u' v,
      u = Slot.opening s.number x y ++
        ⟨.pause, ()⟩ :: ⟨.freshToken s.number, .ok token⟩ :: u' ∧
      Admission location token u' v ∧ c = v.credential

/-- Verification with a location of keys, and every session on it, goes by what the keys vouch for. -/
theorem vouching (settings : VerificationSettings) (location : Url) :
    Vouching { settings with keyLocation := some location } location where
  accepted token u v hwalk := admission_of_walk rfl hwalk
  decided token h key answer u x hvouched hwalk := by
    rcases verify_of_walk_cons rfl hvouched.header hwalk with
      ⟨e, houtcome, _, _⟩ | ⟨key', now, houtcome, hu, hx⟩
    · cases (keyOutcome_of_vouched hvouched).symm.trans houtcome
    · cases (keyOutcome_of_vouched hvouched).symm.trans houtcome
      refine ⟨now, hu, ?_⟩
      rw [hx, accept, accept, claims_of_vouched hvouched]
  refused token h fetched e u x hheader hunfit hwalk := by
    have hrefusal := keyOutcome_of_unfit hunfit
    rcases verify_of_walk_cons rfl hheader hwalk with
      ⟨e', houtcome, hu, hx⟩ | ⟨key, now, houtcome, _, _⟩
    · cases hrefusal.symm.trans houtcome
      exact ⟨hu, hx⟩
    · cases hrefusal.symm.trans houtcome
  publicly token h key answer keys hvouched hkeys hpublic := hvouched.publicly hkeys hpublic
  begun number cache token u s hwalk := by
    rcases hwalk.of_bind_done with ⟨verified, u₁, u₂, rfl, hverify, hrest⟩
    cases verified with
    | error e =>
        rcases walk_done_iff.1 hrest with ⟨_, hq⟩
        cases hq
    | ok v =>
        rcases walk_ask_iff.1 hrest with ⟨_, hq⟩ | ⟨_, u₃, rfl, hend⟩
        · cases hq
        · rcases walk_done_iff.1 hend with ⟨rfl, _⟩
          exact ⟨u₁, v, rfl, admission_of_walk rfl hverify⟩
  refilled s renewable name u i c next hidentity hwalk := by
    rcases Session.settle_of_walk hwalk with ⟨hi, x, y, u', own, rfl, _, hrefresh, houtcome⟩
    have hown : own = .ok (some c) := mapError_eq_ok.1 houtcome.symm
    subst hown
    unfold Session.refresh at hrefresh
    rw [hidentity] at hrefresh
    cases renewable with
    | false =>
        rcases walk_done_iff.1 hrefresh with ⟨_, hq⟩
        cases hq
    | true =>
        rcases Session.renew_of_walk hrefresh with ⟨token, u'', v, rfl, hverify, hc⟩
        exact ⟨hi, x, y, token, u'', v, rfl, admission_of_walk rfl hverify, hc⟩

end IdToken
end Countersign
