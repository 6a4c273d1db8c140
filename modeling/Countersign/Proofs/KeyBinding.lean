import Countersign.Proofs.Acquiring
import Countersign.Proofs.ProofBinding
import Countersign.Proofs.TicketRounds

/-!
# Key binding — one key for an exchange of tickets and for what comes of it

For an exchange of tickets a session chooses one of its keys once, from the algorithms that the server
advertises.  The choice is kept as a thumbprint: for every post of the exchange, in the credential that is
obtained, and in the cache.  This file shows that the thumbprint always leads back to that key, as long
as the digest behind it does not collide on the keys of the session:

* `Keyring.CollisionFree` — no two public halves of keys in use have one digest;
* `Keyring.Least` — the key in use for the least algorithm among some names;
* `SignedBy` — a request has one proof, by a given key and for the request itself;
* `TicketProvider.Bound`, `TicketProvider.Unbound` — an exchange with a key, and one without;
* `TicketProvider.key_binding` — every exchange of a session with an identity token is one of these.
-/

namespace Countersign

open Program

/-! ## The choice of a key -/

namespace Keyring

variable {keys : List ProofKey} {names : List String} {k l : ProofKey}

/-- The digest has no collision among the public halves of the keys in use. -/
def CollisionFree (keys : List ProofKey) : Prop :=
  ∀ k l, InUse keys k → InUse keys l →
    Digest.sha256.hash (Utf8.encode k.canonical) = Digest.sha256.hash (Utf8.encode l.canonical) →
    k.canonical = l.canonical

/-- Keys in use are told apart by their thumbprints. -/
def Apart (keys : List ProofKey) : Prop :=
  ∀ k l, InUse keys k → InUse keys l → k.thumbprint = l.thumbprint → k = l

/-- The public half of a key begins with the name of its curve. -/
theorem exists_canonical (k : ProofKey) : ∃ rest, k.canonical.toList =
    '\x7b' :: Json.quote "crv" (':' :: Json.quote k.algorithm.curveName (',' :: rest)) := by
  rw [ProofKey.canonical, Json.render, String.toList_ofList, Json.ofFields, List.map_cons,
    List.map_cons, Json.renderOnto, Json.renderOnto.renderFields, Json.string, Json.renderOnto]
  · exact ⟨_, rfl⟩
  · simp

theorem algorithm_of_canonical (h : k.canonical = l.canonical) : k.algorithm = l.algorithm := by
  rcases exists_canonical k with ⟨restₖ, hk⟩
  rcases exists_canonical l with ⟨restₗ, hl⟩
  have hcurves := hk.symm.trans (h ▸ hl)
  generalize k.algorithm = a at hcurves ⊢
  generalize l.algorithm = b at hcurves ⊢
  -- the names of the curves differ in a digit
  cases a with
  | es256 =>
      cases b with
      | es256 => rfl
      | es384 => simp [Json.quote, Json.escapeChar, ProofAlgorithm.curveName] at hcurves
  | es384 =>
      cases b with
      | es256 => simp [Json.quote, Json.escapeChar, ProofAlgorithm.curveName] at hcurves
      | es384 => rfl

theorem CollisionFree.apart (h : CollisionFree keys) : Apart keys := by
  intro k l hk hl hsame
  have hdigest := congrArg Base64.decodeUrl? hsame
  rw [ProofKey.thumbprint, ProofKey.thumbprint, Base64.decodeUrl?_encodeUrl,
    Base64.decodeUrl?_encodeUrl] at hdigest
  exact hk.unique hl (algorithm_of_canonical (h k l hk hl (Option.some.inj hdigest)))

/-- The key in use for the least algorithm that is among some names. -/
structure Least (keys : List ProofKey) (names : List String) (k : ProofKey) : Prop where
  inUse : InUse keys k
  named : k.algorithm.name ∈ names
  le : ∀ l, InUse keys l → l.algorithm.name ∈ names → k.algorithm.name ≤ l.algorithm.name

theorem Least.unique (h : Least keys names k) (h' : Least keys names l) : k = l := by
  have hname : k.algorithm.name = l.algorithm.name :=
    String.le_antisymm (h.le l h'.inUse h'.named) (h'.le k h.inUse h.named)
  exact h.inUse.unique h'.inUse (ProofAlgorithm.name_injective hname)

theorem mem_algorithms {a : String} :
    a ∈ (ofKeys keys).algorithms.toList ↔ ∃ k, InUse keys k ∧ k.algorithm.name = a := by
  have hmem : a ∈ (ofKeys keys).algorithms ↔ a ∈ (ofKeys keys).keys.map fun k => k.algorithm.name :=
    Names.mem_ofList
  rw [show a ∈ (ofKeys keys).algorithms.toList ↔ _ from hmem, List.mem_map]
  simp only [mem_ofKeys]

theorem contains_ofList {a : String} : (Names.ofList names).contains a = true ↔ a ∈ names := by
  rw [Names.contains, List.contains_iff_mem]
  exact Names.mem_ofList

/-- Either no key in use is of one of the algorithms, or the key of the least one is selected. -/
theorem select?_spec (keys : List ProofKey) (names : List String) :
    ((ofKeys keys).select? (Names.ofList names) = none ∧
        ∀ k, InUse keys k → k.algorithm.name ∉ names) ∨
      ∃ k, Least keys names k ∧
        (ofKeys keys).select? (Names.ofList names) = some k.thumbprint := by
  unfold select?
  cases hfound : (ofKeys keys).algorithms.toList.find? fun a => (Names.ofList names).contains a with
  | none =>
      refine .inl ⟨rfl, ?_⟩
      intro k huse hnamed
      have hnone := List.find?_eq_none.1 hfound k.algorithm.name (mem_algorithms.2 ⟨k, huse, rfl⟩)
      exact hnone (contains_ofList.2 hnamed)
  | some a =>
      rcases List.find?_eq_some_iff_append.1 hfound with ⟨hcontains, before, after, hlist, hbefore⟩
      have hmem : a ∈ (ofKeys keys).algorithms.toList := by simp [hlist]
      rcases mem_algorithms.1 hmem with ⟨k, huse, rfl⟩
      refine .inr ⟨k, ⟨huse, contains_ofList.1 hcontains, ?_⟩, ?_⟩
      · -- the names ascend, so the first match is the least one
        intro l hl hnamed
        have hl' := mem_algorithms.2 ⟨l, hl, rfl⟩
        rw [hlist, List.mem_append, List.mem_cons] at hl'
        rcases hl' with hearlier | heq | hlater
        · -- what stands before the first match is not among the names
          have hmiss := hbefore _ hearlier
          rw [contains_ofList.2 hnamed] at hmiss
          cases hmiss
        · exact heq ▸ String.le_refl _
        · have hascending := (ofKeys keys).algorithms.ascending
          rw [hlist] at hascending
          have hlt : k.algorithm.name < l.algorithm.name :=
            (List.pairwise_cons.1 (List.pairwise_append.1 hascending).2.1).1 _ hlater
          exact String.not_lt.1 fun hgt => String.lt_irrefl _ (String.lt_trans hlt hgt)
      · rw [Option.bind_some, thumbprint?, key?_of_inUse huse]
        rfl

end Keyring

section

variable {number : SessionId} {name : String} {settings : VerificationSettings} {renewable : Bool}
  {names : List String} {k : ProofKey}

theorem Session.selectThumbprint_eq :
    (⟨number, name, .openId settings renewable⟩ : Session).selectThumbprint (Names.ofList names) =
      (Keyring.ofKeys settings.proofKeys).select? (Names.ofList names) := by
  unfold Session.selectThumbprint Session.keyring VerificationSettings.keyring
  by_cases hempty : settings.proofKeys.isEmpty = true
  · have hkeys := List.isEmpty_iff.1 hempty
    simp [hkeys, Keyring.ofKeys, Keyring.select?, Keyring.algorithms, Names.ofList, Names.empty]
  · simp [hempty]

end

/-! ## Requests with a proof by one key -/

/-- Whether a request has one proof, by a key, and for the method and the URI of the request. -/
def SignedBy (k : ProofKey) (up : Request) : Prop :=
  ∃ proof, up.headers.values ClientExchange.proofField = [Utf8.encode proof] ∧
    PossessionProof.Proves k up.method up.uri proof

namespace TicketExchange

variable {limit : Nat} {endpoint : Url} {handlers : List ClaimHandler} {t : TicketRequest}
  {w : Transcript TicketExchange} {u : Transcript World}
  {q : Program TicketExchange (Except UmaError TokenAnswer)}

theorem exists_of_posted {s : Request × Except TransportError Response} (hs : s ∈ posted w) :
    ∃ c rest, w = c ++ ⟨.post s.1, s.2⟩ :: rest := by
  induction w with
  | nil => cases hs
  | cons e w ih =>
      have hlater : s ∈ posted w → ∃ c rest, e :: w = c ++ ⟨.post s.1, s.2⟩ :: rest := by
        intro hs
        rcases ih hs with ⟨c, rest, hw⟩
        exact ⟨e :: c, rest, by rw [hw]; rfl⟩
      rcases e with ⟨_ | _ | _, answer⟩
      case post =>
          rcases List.mem_cons.1 hs with rfl | hs
          · exact ⟨[], w, rfl⟩
          · exact hlater hs
      all_goals exact hlater hs

/-- What is posted was asked for, by an exchange that was on its way. -/
theorem posts_of_posted {bound : Option String}
    (h : Walk (rounds limit endpoint handlers bound limit t) w q)
    {s : Request × Except TransportError Response} (hs : s ∈ posted w) :
    ∃ c rest, w = c ++ rest ∧ Posts limit endpoint handlers bound t c s.1 := by
  rcases exists_of_posted hs with ⟨c, rest, rfl⟩
  rcases h.of_append with ⟨m, hm, hrest⟩
  cases hrest with
  | answered _ =>
      have hasked : Asked limit endpoint handlers bound t c (.post s.1) :=
        stands_of_walk .first (Nat.zero_add _) hm
      cases hasked with
      | post hposts => exact ⟨c, _, rfl, hposts⟩

variable {number : SessionId} {name : String} {settings : VerificationSettings} {renewable : Bool}
  {k : ProofKey}

/-- A post that is bound to the thumbprint of a key in use has a proof by that key. -/
theorem signedBy_of_posted (hapart : Keyring.Apart settings.proofKeys)
    (hk : Keyring.InUse settings.proofKeys k)
    (h : Walk (rounds limit endpoint handlers (some k.thumbprint) limit t) w q)
    (hserved : Served (inWorld ⟨number, name, .openId settings renewable⟩ handlers) w u) :
    ∀ s ∈ posted w, SignedBy k s.1 := by
  intro s hs
  rcases posts_of_posted h hs with ⟨c, rest, rfl, hposts⟩
  generalize s.1 = up at hposts ⊢
  cases hposts with
  | @due i b d req up _ _ hprepared =>
      rcases hprepared.of_ok with ⟨hfree, _, _⟩ | ⟨thumbprint, proof, hbound, rfl, rfl⟩
      · cases hfree
      · cases hbound
        -- the session made the proof, and it has only one key of that thumbprint
        rcases hserved.of_append with ⟨u₁, u₂, rfl, hfront, _⟩
        rcases hfront.of_append with ⟨u₃, u₄, rfl, _, hproof⟩
        rcases hproof.of_cons with ⟨u₅, u₆, rfl, hmade, _⟩
        cases Session.proved_of_walk hmade with
        | @proven l _ hl hsame hproves _ =>
            have hkey : l = k := hapart l k hl hk hsame
            subst hkey
            exact ⟨proof, Headers.values_set_self _ _ _, hproves⟩

end TicketExchange

namespace ClientExchange

variable {number : SessionId} {name : String} {settings : VerificationSettings} {renewable : Bool}
  {registry : Registry} {r up : Request} {c : Credential} {b t : Transcript ClientExchange}
  {u : Transcript World} {k : ProofKey}

theorem Built.signedBy (hapart : Keyring.Apart settings.proofKeys)
    (hk : Keyring.InUse settings.proofKeys k) (hbound : c.thumbprint = some k.thumbprint)
    (hdpop : c.isDpop = true) (h : Built r c b (.ok up))
    (hserved : Served (Client.inWorld ⟨⟨number, name, .openId settings renewable⟩, registry⟩) b u) :
    SignedBy k up := by
  rcases h.proven_or_withheld hserved hdpop with ⟨e, he, _⟩ | ⟨he, _⟩ | ⟨up', hup, _, hproven⟩
  · cases he
  · cases he
  · cases hup
    rcases hproven with ⟨l, proof, hl, hthumbprint, hvalues, hproves⟩
    have hsame : l.thumbprint = k.thumbprint := by
      rw [hbound] at hthumbprint
      exact (Option.some.inj hthumbprint).symm
    rw [← hapart l k hl hk hsame]
    exact ⟨proof, hvalues, hproves⟩

/-- Once a credential is on offer, only a request that was built with it is handed over. -/
theorem BeforeTransmit.built_of_offered (h : BeforeTransmit r t up) (hoffered : Offered r t c) :
    ∃ t₁ b, Built r c b (.ok up) ∧ t = t₁ ++ b := by
  cases h with
  | own _ => simp at hoffered
  | first _ => simp at hoffered
  | @cached c' b _ _ hb =>
      have hsame : c' = c := by simpa [hb.not_offered] using hoffered
      subst hsame
      exact ⟨[⟨.recall r, some c'⟩], b, hb, rfl⟩
  | @retry refusal c' b _ _ _ hb =>
      have hsame : c' = c := by simpa [hb.not_offered] using hoffered
      subst hsame
      exact ⟨[⟨.recall r, none⟩, ⟨.transmit r, .ok refusal⟩, ⟨.negotiate r refusal, .ok (some c')⟩],
        b, hb, rfl⟩

end ClientExchange

namespace TicketProvider

/-! ## Exchanges with a key and without -/

/-- An exchange with a key: each post has a proof by it, the credential names it, and wherever that
credential demands a proof later, the proof is by the same key. -/
structure Bound (p : TicketProvider) (c : TicketChallenge) (s : Session)
    (idToken : Option Credential) (m : Metadata) (k : ProofKey) : Prop where
  posts : ∀ w q u, Walk (p.questions c s idToken m) w q →
    Served (TicketExchange.inWorld s p.handlers) w u → ∀ x ∈ TicketExchange.posted w,
      x.1.method = "POST" ∧ x.1.uri = m.tokenEndpoint ∧ SignedBy k x.1
  credential : ∀ u cred, Walk (p.exchange c s idToken m) u (done (.ok cred)) →
    cred.thumbprint = some k.thumbprint
  /-- Once a client of the session has the credential, from the negotiation or from the cache, nothing
  is handed over but the upgraded request. -/
  later : ∀ u cred, Walk (p.exchange c s idToken m) u (done (.ok cred)) → cred.isDpop = true →
    ∀ registry r t u up after,
      Walk (ClientExchange.program r) t (ask (I := ClientExchange) (.transmit up) after) →
      Served (Client.inWorld ⟨s, registry⟩) t u → ClientExchange.Offered r t cred →
      ClientExchange.Upgrade r cred up ∧ SignedBy k up

/-- An exchange without a key: the credential is bound as the identity token is. -/
structure Unbound (p : TicketProvider) (c : TicketChallenge) (s : Session)
    (idToken : Option Credential) (m : Metadata) : Prop where
  posts : ∀ w q, Walk (p.questions c s idToken m) w q → ∀ x ∈ TicketExchange.posted w,
    x.1.headers.values ClientExchange.proofField = []
  credential : ∀ u cred, Walk (p.exchange c s idToken m) u (done (.ok cred)) →
    cred.thumbprint = idToken.bind Credential.thumbprint

variable {number : SessionId} {name : String} {settings : VerificationSettings} {renewable : Bool}
  {p : TicketProvider} {c : TicketChallenge} {s : Session} {idToken : Option Credential}
  {m : Metadata} {k : ProofKey}

theorem thumbprint_of_exchange {u : Transcript World} {cred : Credential}
    (h : Walk (p.exchange c s idToken m) u (done (.ok cred))) :
    cred.thumbprint = (s.selectThumbprint (Names.ofList m.dpopAlgorithms)).or
      (idToken.bind Credential.thumbprint) := by
  have hexchanged := walk_exchange_iff.1 h
  generalize hv : (Except.ok cred : Except AuthError Credential) = v at hexchanged
  cases hexchanged with
  | failed _ _ => cases hv
  | overlong _ _ _ => cases hv
  | granted _ _ _ =>
      cases hv
      rfl

theorem bound_of_least (hapart : Keyring.Apart settings.proofKeys)
    (hleast : Keyring.Least settings.proofKeys m.dpopAlgorithms k)
    (hselect : (⟨number, name, .openId settings renewable⟩ : Session).selectThumbprint
      (Names.ofList m.dpopAlgorithms) = some k.thumbprint) :
    Bound p c ⟨number, name, .openId settings renewable⟩ idToken m k := by
  -- the key that signs the posts is the one that the credential names
  have hcredential : ∀ u cred,
      Walk (p.exchange c ⟨number, name, .openId settings renewable⟩ idToken m) u (done (.ok cred)) →
      cred.thumbprint = some k.thumbprint := by
    intro u cred h
    rw [thumbprint_of_exchange h, hselect, Option.some_or]
  refine ⟨?_, hcredential, ?_⟩
  · intro w q u h hserved x hx
    rw [questions, hselect] at h
    rcases TicketExchange.posts_of_posted h hx with ⟨_, _, _, hposts⟩
    have haddressed := hposts.addressed
    exact ⟨haddressed.method, haddressed.uri,
      TicketExchange.signedBy_of_posted hapart hleast.inUse h hserved x hx⟩
  · intro u₀ cred hobtained hdpop registry r t u up after h hserved hoffered
    have hasked := ClientExchange.asked_of_walk h
    cases hasked with
    | transmit hbefore =>
        rcases hbefore.built_of_offered hoffered with ⟨t₁, b, hb, rfl⟩
        rcases hserved.of_append with ⟨u₁, u₂, rfl, _, hproof⟩
        exact ⟨hb.upgrade,
          hb.signedBy hapart hleast.inUse (hcredential u₀ cred hobtained) hdpop hproof⟩

theorem unbound_of_select (hselect : s.selectThumbprint (Names.ofList m.dpopAlgorithms) = none) :
    Unbound p c s idToken m := by
  constructor
  · intro w q h x hx
    rw [questions, hselect] at h
    rcases TicketExchange.posts_of_posted h hx with ⟨_, _, _, hposts⟩
    exact hposts.addressed.unproven rfl
  · intro u cred h
    rw [thumbprint_of_exchange h, hselect, Option.none_or]

/-- What becomes of the keys of a session in the exchanges of a challenge. -/
structure KeyBinding (p : TicketProvider) (c : TicketChallenge) (s : Session)
    (keys : List ProofKey) : Prop where
  /-- A complete exchange asks these questions on behalf of the session, and makes a credential of the
  token that it is granted. -/
  exchange : ∀ idToken m u v,
    Walk (p.exchange c s idToken m) u (done v) ↔ Exchanged p c s idToken m u v
  /-- If the server advertises an algorithm of a key in use, the key of the least one is bound. -/
  chosen : ∀ idToken m, (∃ k, Keyring.InUse keys k ∧ k.algorithm.name ∈ m.dpopAlgorithms) →
    ∃ k, Keyring.Least keys m.dpopAlgorithms k ∧ Bound p c s idToken m k
  unchosen : ∀ idToken m, (¬ ∃ k, Keyring.InUse keys k ∧ k.algorithm.name ∈ m.dpopAlgorithms) →
    Unbound p c s idToken m
  /-- Whatever proof is posted, it is by a key of an advertised algorithm. -/
  advertised : ∀ idToken m w q u, Walk (p.questions c s idToken m) w q →
    Served (TicketExchange.inWorld s p.handlers) w u → ∀ x ∈ TicketExchange.posted w,
      x.1.headers.values ClientExchange.proofField ≠ [] →
      ∃ k, Keyring.InUse keys k ∧ k.algorithm.name ∈ m.dpopAlgorithms ∧ SignedBy k x.1
  /-- A credential for the challenge comes from such an exchange. -/
  exchanged : ∀ u cred, Walk (p.acquire c s) u (done (.ok cred)) →
    ∃ u₁ u₂ idToken m, u = u₁ ++ u₂ ∧ Walk (p.exchange c s idToken m) u₂ (done (.ok cred))

/-- In the exchanges of a session with an identity token one key makes all proofs, or there are none. -/
theorem key_binding (number : SessionId) (name : String) (settings : VerificationSettings)
    (renewable : Bool) (p : TicketProvider) (c : TicketChallenge)
    (hfree : Keyring.CollisionFree settings.proofKeys) :
    KeyBinding p c ⟨number, name, .openId settings renewable⟩ settings.proofKeys := by
  have hcases : ∀ idToken m,
      ((∀ k, Keyring.InUse settings.proofKeys k → k.algorithm.name ∉ m.dpopAlgorithms) ∧
          Unbound p c ⟨number, name, .openId settings renewable⟩ idToken m) ∨
        ∃ k, Keyring.Least settings.proofKeys m.dpopAlgorithms k ∧
          Bound p c ⟨number, name, .openId settings renewable⟩ idToken m k := by
    intro idToken m
    rcases Keyring.select?_spec settings.proofKeys m.dpopAlgorithms with
      ⟨hnone, hunnamed⟩ | ⟨k, hleast, hsome⟩
    · exact .inl ⟨hunnamed, unbound_of_select (Session.selectThumbprint_eq.trans hnone)⟩
    · exact .inr ⟨k, hleast, bound_of_least hfree.apart hleast
        (Session.selectThumbprint_eq.trans hsome)⟩
  refine ⟨fun _ _ _ _ => walk_exchange_iff, ?_, ?_, ?_, ?_⟩
  · intro idToken m hnamed
    rcases hcases idToken m with ⟨hunnamed, _⟩ | hbound
    · rcases hnamed with ⟨k, huse, hk⟩
      exact absurd hk (hunnamed k huse)
    · exact hbound
  · intro idToken m hunnamed
    rcases hcases idToken m with ⟨_, hunbound⟩ | ⟨k, hleast, _⟩
    · exact hunbound
    · exact absurd ⟨k, hleast.inUse, hleast.named⟩ hunnamed
  · intro idToken m w q u h hserved x hx hproof
    rcases hcases idToken m with ⟨_, hunbound⟩ | ⟨k, hleast, hbound⟩
    · exact absurd (hunbound.posts w q h x hx) hproof
    · exact ⟨k, hleast.inUse, hleast.named, (hbound.posts w q u h hserved x hx).2.2⟩
  · intro u cred h
    have hacquired := walk_acquire_iff.1 h
    generalize hv : (Except.ok cred : Except AuthError Credential) = v at hacquired
    cases hacquired with
    | unidentified _ => cases hv
    | undiscovered _ _ => cases hv
    | @exchanged u₁ u₂ u₃ idToken m _ _ _ hexchange =>
        cases hv
        exact ⟨u₁ ++ u₂, u₃, idToken, m, by simp, hexchange⟩

/-! ### A session with two keys -/

/-- A key of one algorithm. -/
def shortKey : ProofKey := { algorithm := .es256, secret := 1, x := 1, y := 2 }

/-- A key of another one. -/
def longKey : ProofKey := { algorithm := .es384, secret := 1, x := 1, y := 2 }

def ringed : VerificationSettings := { proofKeys := [longKey, shortKey] }

/-- A server that advertises both algorithms, and a third one first. -/
def generous : Metadata :=
  { tokenEndpoint := ClientExchange.shelf, dpopAlgorithms := ["EdDSA", "ES384", "ES256"] }

theorem inUse_ringed {k : ProofKey} :
    Keyring.InUse ringed.proofKeys k ↔ k = longKey ∨ k = shortKey := by
  have hring : (Keyring.ofKeys ringed.proofKeys).keys = [longKey, shortKey] := by decide
  rw [← Keyring.mem_ofKeys, hring]
  simp

theorem digest_longKey_ne :
    Digest.sha256.hash (Utf8.encode longKey.canonical) ≠
      Digest.sha256.hash (Utf8.encode shortKey.canonical) := by
  decide +kernel

/-- The key whose algorithm has the lesser name is bound. -/
theorem key_binding_ringed :
    Keyring.CollisionFree ringed.proofKeys ∧
      Bound {} ⟨ClientExchange.shelf, "ticket"⟩ ⟨0, "reader", .openId ringed false⟩ none generous
        shortKey := by
  have hfree : Keyring.CollisionFree ringed.proofKeys := by
    intro k l hk hl hsame
    rcases inUse_ringed.1 hk with rfl | rfl
    · rcases inUse_ringed.1 hl with rfl | rfl
      · rfl
      · exact absurd hsame digest_longKey_ne
    · rcases inUse_ringed.1 hl with rfl | rfl
      · exact absurd hsame.symm digest_longKey_ne
      · rfl
  have hshort : Keyring.Least ringed.proofKeys generous.dpopAlgorithms shortKey := by
    refine ⟨inUse_ringed.2 (.inr rfl), by decide, ?_⟩
    intro l hl _
    rcases inUse_ringed.1 hl with rfl | rfl
    · decide
    · decide
  have hbinding := key_binding 0 "reader" ringed false {} ⟨ClientExchange.shelf, "ticket"⟩ hfree
  rcases hbinding.chosen none generous ⟨shortKey, hshort.inUse, hshort.named⟩ with ⟨k, hleast, hbound⟩
  rw [hshort.unique hleast]
  exact ⟨hfree, hbound⟩

end TicketProvider
end Countersign
