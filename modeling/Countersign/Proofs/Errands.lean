import Countersign.Proofs.CacheHistory
import Countersign.Proofs.Footprint
import Countersign.Proofs.ResourceKeys

/-!
# Errands — clients that share a registry

Clients send requests and reset their sessions, side by side and in any order.  This file says what
each such errand asks of the world, and what a step of one of them means for the caches:

* `Session.Authenticating` — where a session is that runs an authenticator;
* `Registry.Sparing` — the authenticators leave the caches alone, as those of the library do;
* `Errand` — a send or a reset on behalf of a session;
* `Client.Asks c r u op` — what a send asks when it has asked `u`;
* `Errand.Traffic` — the runs of errands that begin with empty caches;
* `Errand.Granted` — a refusal started an authenticator, and it returned a credential;
* `Errand.Traffic.granted` — whatever is stored in a cache has been granted.
-/

namespace Countersign

open Program ClientExchange

/-! ## What a send asks -/

theorem Session.cached_eq (s : Session) (r : Request) :
    s.cached r = ask (I := World) (.recall s.number (CredentialCache.key r.uri)) fun x =>
      match x.1 with
      | none => done none
      | some c =>
        if c.isExpiredAt x.2 then
          ask (I := World) (.discard s.number (CredentialCache.key r.uri)) fun _ => done none
        else done (some c) :=
  CredentialCache.get_eq s.number r.uri

theorem Session.authenticate_eq (s : Session) (a : Authenticator) (r : Request) (names : Names) :
    s.authenticate a r names = (a.acquire s r names).bind fun outcome =>
      match outcome with
      | .error e => done (.error e)
      | .ok c =>
        ask (I := World) (.retain s.number (CredentialCache.key r.uri) c) fun _ =>
          done (.ok (some c)) := rfl

theorem Registry.negotiate_eq (registry : Registry) (s : Session) (r : Request)
    (cs : List Challenge) :
    registry.negotiate s r cs =
      match registry.select s cs with
      | none => done (.ok none)
      | some a => s.authenticate a r (Registry.algorithms cs) := rfl

/-! ### Looking into the cache -/

section

variable {s : Session} {r : Request} {u : Transcript World} {op : Act}

theorem cached_of_walk_ask {next : op.Answer → Run (Option Credential)}
    (h : Walk (s.cached r) u (ask (I := World) op next)) :
    (u = [] ∧ op = .recall s.number (CredentialCache.key r.uri)) ∨
      ∃ held now, u = [⟨.recall s.number (CredentialCache.key r.uri), (some held, now)⟩] ∧
        held.isExpiredAt now = true ∧ op = .discard s.number (CredentialCache.key r.uri) :=
  CredentialCache.get_of_walk_ask h

/-- A session finds the credential that its cache holds, if that is live. -/
theorem cached_of_walk_done {found : Option Credential} (h : Walk (s.cached r) u (done found)) :
    ∃ held now u', u = ⟨.recall s.number (CredentialCache.key r.uri), (held, now)⟩ :: u' ∧
      found = Credential.liveAt now held :=
  CredentialCache.get_of_walk_done h

/-! ### Negotiating -/

variable {registry : Registry} {cs : List Challenge}

/-- Where a session is that runs an authenticator, with what has been asked before. -/
inductive Session.Authenticating (s : Session) (a : Authenticator) (r : Request) (names : Names) :
    Transcript World → Run (Except AuthError (Option Credential)) → Prop where
  | working {u : Transcript World} {op : Act} {rest : op.Answer → Run (Except AuthError Credential)}
      {next : op.Answer → Run (Except AuthError (Option Credential))} :
      Walk (a.acquire s r names) u (ask (I := World) op rest) →
      Authenticating s a r names u (ask (I := World) op next)
  | failed {u : Transcript World} {e : AuthError} :
      Walk (a.acquire s r names) u (done (.error e)) → Authenticating s a r names u (done (.error e))
  | granted {u : Transcript World} {c : Credential}
      {next : Unit → Run (Except AuthError (Option Credential))} :
      Walk (a.acquire s r names) u (done (.ok c)) →
      Authenticating s a r names u
        (ask (I := World) (.retain s.number (CredentialCache.key r.uri) c) next)
  | stored {u : Transcript World} {c : Credential} :
      Walk (a.acquire s r names) u (done (.ok c)) →
      Authenticating s a r names (u ++ [⟨.retain s.number (CredentialCache.key r.uri) c, ()⟩])
        (done (.ok (some c)))

theorem Session.authenticating_of_walk {a : Authenticator} {names : Names}
    {q : Run (Except AuthError (Option Credential))} (h : Walk (s.authenticate a r names) u q) :
    s.Authenticating a r names u q := by
  rw [Session.authenticate_eq] at h
  rcases h.of_bind_or with ⟨op, rest, hwork, rfl⟩ | ⟨outcome, run, kept, rfl, hrun, hkept⟩
  · exact .working hwork
  · cases outcome with
    | error e =>
        rcases walk_done_iff.1 hkept with ⟨rfl, rfl⟩
        rw [List.append_nil]
        exact .failed hrun
    | ok c =>
        rcases walk_ask_iff.1 hkept with ⟨rfl, rfl⟩ | ⟨_, kept', rfl, hend⟩
        · rw [List.append_nil]
          exact .granted hrun
        · rcases walk_done_iff.1 hend with ⟨rfl, rfl⟩
          exact .stored hrun

/-- A negotiation has nothing to run, or it runs the authenticator that has been selected. -/
theorem negotiating_of_walk {q : Run (Except AuthError (Option Credential))}
    (h : Walk (registry.negotiate s r cs) u q) :
    (registry.select s cs = none ∧ u = [] ∧ q = done (.ok none)) ∨
      ∃ a, registry.select s cs = some a ∧ s.Authenticating a r (Registry.algorithms cs) u q := by
  rw [Registry.negotiate_eq] at h
  cases hselect : registry.select s cs with
  | none =>
      rw [hselect] at h
      exact .inl ⟨rfl, walk_done_iff.1 h⟩
  | some a =>
      rw [hselect] at h
      exact .inr ⟨a, rfl, Session.authenticating_of_walk h⟩

theorem negotiate_of_walk_ask {next : op.Answer → Run (Except AuthError (Option Credential))}
    (h : Walk (registry.negotiate s r cs) u (ask (I := World) op next)) :
    ∃ a, registry.select s cs = some a ∧
      ((∃ rest, Walk (a.acquire s r (Registry.algorithms cs)) u (ask (I := World) op rest)) ∨
        ∃ granted, Walk (a.acquire s r (Registry.algorithms cs)) u (done (.ok granted)) ∧
          op = .retain s.number (CredentialCache.key r.uri) granted) := by
  rcases negotiating_of_walk h with ⟨_, _, hq⟩ | ⟨a, hselect, hplace⟩
  · cases hq
  · refine ⟨a, hselect, ?_⟩
    cases hplace with
    | working hwork => exact .inl ⟨_, hwork⟩
    | granted hrun => exact .inr ⟨_, hrun, rfl⟩

/-- A credential is negotiated by an authenticator, and then stored. -/
theorem negotiate_of_walk_done {granted : Credential}
    (h : Walk (registry.negotiate s r cs) u (done (.ok (some granted)))) :
    ∃ a run, registry.select s cs = some a ∧
      u = run ++ [⟨.retain s.number (CredentialCache.key r.uri) granted, ()⟩] ∧
      Walk (a.acquire s r (Registry.algorithms cs)) run (done (.ok granted)) := by
  rcases negotiating_of_walk h with ⟨_, _, hq⟩ | ⟨a, hselect, hplace⟩
  · cases hq
  · cases hplace with
    | stored hrun => exact ⟨a, _, hselect, rfl, hrun⟩

/-- A negotiation fails as the authenticator does that has been selected. -/
theorem walk_negotiate_error {e : AuthError} :
    Walk (registry.negotiate s r cs) u (done (.error e)) ↔
      ∃ a, registry.select s cs = some a ∧
        Walk (a.acquire s r (Registry.algorithms cs)) u (done (.error e)) := by
  constructor
  · intro h
    rcases negotiating_of_walk h with ⟨_, _, hq⟩ | ⟨a, hselect, hplace⟩
    · cases hq
    · cases hplace with
      | failed hrun => exact ⟨a, hselect, hrun⟩
  · rintro ⟨a, hselect, hrun⟩
    rw [Registry.negotiate_eq, hselect]
    dsimp only
    rw [Session.authenticate_eq]
    exact hrun.bind _

end

/-! ### The send as a whole -/

namespace Client

/-- A send without a credential was refused, and the registry has an authenticator for the
refusal; `u` is what the send has asked so far. -/
structure Refused (c : Client) (r : Request) (u : Transcript World) (refusal : Response)
    (a : Authenticator) : Prop where
  bare : ¬ Carries r
  status : refusal.status = unauthorized
  selected : c.registry.select c.session refusal.challenges = some a
  served : Served c.inWorld [⟨.recall r, none⟩, ⟨.transmit r, .ok refusal⟩] u

/-- The run of an authenticator on behalf of a client, as a refusal starts it. -/
def answering (c : Client) (r : Request) (refusal : Response) (a : Authenticator) :
    Run (Except AuthError Credential) :=
  a.acquire c.session r (Registry.algorithms refusal.challenges)

/-- What a send asks the world, with what it has asked before. -/
inductive Asks (c : Client) (r : Request) : Transcript World → Act → Prop where
  | recall : ¬ Carries r → Asks c r [] (.recall c.session.number (CredentialCache.key r.uri))
  | discard {held : Credential} {now : Instant} :
      ¬ Carries r → held.isExpiredAt now = true →
      Asks c r [⟨.recall c.session.number (CredentialCache.key r.uri), (some held, now)⟩]
        (.discard c.session.number (CredentialCache.key r.uri))
  | transmit {t : Transcript ClientExchange} {u : Transcript World} {up : Request} :
      BeforeTransmit r t up → Served c.inWorld t u → Asks c r u (.transmit up)
  | work {refusal : Response} {a : Authenticator} {u h : Transcript World} {op : Act}
      {next : op.Answer → Run (Except AuthError Credential)} :
      c.Refused r u refusal a → Walk (c.answering r refusal a) h (ask (I := World) op next) →
      Asks c r (u ++ h) op
  | retain {refusal : Response} {a : Authenticator} {u h : Transcript World} {granted : Credential} :
      c.Refused r u refusal a → Walk (c.answering r refusal a) h (done (.ok granted)) →
      Asks c r (u ++ h) (.retain c.session.number (CredentialCache.key r.uri) granted)
  | prove {u : Transcript World} {op : Act} :
      (op = .clock ∨ ∃ count, op = .entropy count) → Asks c r u op

/-- Every question of a send has its place. -/
theorem asks_of_walk {c : Client} {r : Request} {u : Transcript World} {op : Act}
    {next : op.Answer → Run (Except Failure Response)}
    (h : Walk (c.send r) u (ask (I := World) op next)) : c.Asks r u op := by
  -- the session or the world is at work on a question `q` of the exchange
  rcases h.of_interpret_ask with ⟨t, u₁, u₂, q, after, rest, rfl, hwalk, hserved, hq⟩
  rcases asked_of_walk hwalk with hbare | hbefore | ⟨hbare, hstatus⟩ | ⟨thumbprint, hbare⟩
  · cases hserved
    rcases cached_of_walk_ask hq with ⟨rfl, rfl⟩ | ⟨held, now, rfl, hexpired, rfl⟩
    · exact .recall hbare
    · exact .discard hbare hexpired
  · rcases walk_ask_iff.1 hq with ⟨rfl, hop⟩ | ⟨answer, u₃, rfl, hend⟩
    · cases hop
      rw [List.append_nil]
      exact .transmit hbefore hserved
    · rcases walk_done_iff.1 hend with ⟨_, hop⟩
      cases hop
  · -- the authenticator runs, or it has returned what is to be stored
    rcases negotiate_of_walk_ask hq with ⟨a, hselect, ⟨next, hwork⟩ | ⟨granted, hrun, rfl⟩⟩
    · exact .work ⟨hbare, hstatus, hselect, hserved⟩ hwork
    · exact .retain ⟨hbare, hstatus, hselect, hserved⟩ hrun
  · exact .prove ((c.session.proof_only thumbprint r).walk hq).2.1

end Client

/-! ## What the caches see of a send -/

/-- Whether the authenticators that a registry selects leave the caches of sessions alone. -/
def Registry.Sparing (registry : Registry) : Prop :=
  ∀ s cs a, registry.select s cs = some a → ∀ r names, (a.acquire s r names).Only Act.SparesCaches

/-- The registries of the library are sparing. -/
theorem Registry.standard_sparing {settings : NegotiationSettings} {tickets : TicketProvider}
    (hgather : ∀ h ∈ tickets.handlers, h.gather.Only Act.Modest) :
    (Registry.standard settings tickets).Sparing := by
  intro s cs a hselect r names
  exact (Registry.standard_only hgather hselect s r names).mono fun _ h => h.1

/-! ### An authenticator that is not sparing -/

namespace Meddling

/-- Gives a credential to everyone. -/
def giver (c : Credential) : Authenticator where
  name := "giver"
  priority := 0
  acquire := fun _ _ _ => done (.ok c)

/-- Answers challenges for tickets: whatever the session asks for, it is made to authenticate another
request, and the answer is a failure. -/
def provider (other : Request) (c : Credential) : Provider where
  schemes := Names.ofList [uma]
  authenticator _ := .ok
    { name := "meddler"
      priority := 0
      acquire := fun s _ names =>
        (s.authenticate (giver c) other names).map fun _ => .error (.negotiation "busy") }

/-- Identity tokens, and that provider. -/
def registry (other : Request) (c : Credential) : Registry :=
  (({} : Registry.Draft).withProvider IdToken.provider |>.withProvider (provider other c)).build

def page : Url := { scheme := "urn", path := "page" }

/-- Another page. -/
def annex : Url := { scheme := "urn", path := "annex" }

/-- The refusal of the page, with a challenge for tickets. -/
def refusal : Response where
  status := unauthorized
  uri := page
  headers := ({} : Headers).set "www-authenticate" (Utf8.encode uma)

/-- An outside in which the page is refused, and nothing else is. -/
def outside : Outside Unit :=
  .still fun r => .ok (if r.uri = page then refusal else { uri := r.uri, status := 200 })

def token : Credential := { scheme := bearer, issuer := page, token := "t", expiration := ⟨60, 0⟩ }

/-- A client that is made to authenticate a request for a URI. -/
def client (uri : Url) : Client := ⟨⟨0, "guest", .anonymous⟩, registry (.get uri) token⟩

/-- The store behind its send for the page. -/
def behind (uri : Url) : Store := (((client uri).send (.get page)).alone outside ({}, ())).2.1

end Meddling

namespace Client

variable {c : Client} {r : Request} {u : Transcript World} {id : SessionId} {key : String}

theorem Refused.answering_only {refusal : Response} {a : Authenticator}
    (h : c.Refused r u refusal a) (hsparing : c.registry.Sparing) :
    (c.answering r refusal a).Only Act.SparesCaches :=
  hsparing _ _ _ h.selected _ _

/-- A refusal is the last that a refused send has recorded. -/
theorem Refused.exists_before {refusal : Response} {a : Authenticator}
    (h : c.Refused r u refusal a) :
    ∃ before, u = before ++ [⟨.transmit r, .ok refusal⟩] := by
  -- a transmission is one question, whatever the cache was asked before
  rcases h.served.of_cons with ⟨u₁, u₂, rfl, _, hsecond⟩
  rcases hsecond.of_cons with ⟨u₃, u₄, rfl, htransmit, hnone⟩
  cases hnone
  rcases walk_ask_iff.1 htransmit with ⟨_, hv⟩ | ⟨answer, u₅, rfl, hend⟩
  · cases hv
  · rcases walk_done_iff.1 hend with ⟨rfl, hv⟩
    cases hv
    exact ⟨u₁, by simp⟩

namespace Asks

/-- A send concerns a cache in three places: it looks for a credential, it drops one that it has just
found expired, and it stores what the authenticator returned that its refusal started. -/
theorem on_cache {op : Act} (h : c.Asks r u op) (hsparing : c.registry.Sparing)
    (hop : ¬ op.SparesCaches) :
    op = .recall c.session.number (CredentialCache.key r.uri) ∨
      (op = .discard c.session.number (CredentialCache.key r.uri) ∧ ∃ held now,
        u = [⟨.recall c.session.number (CredentialCache.key r.uri), (some held, now)⟩] ∧
          held.isExpiredAt now = true) ∨
      ∃ refusal a u₁ run granted,
        op = .retain c.session.number (CredentialCache.key r.uri) granted ∧ u = u₁ ++ run ∧
          c.Refused r u₁ refusal a ∧ Walk (c.answering r refusal a) run (done (.ok granted)) := by
  -- whatever else is asked spares the caches
  cases h with
  | discard _ hexpired => exact .inr (.inl ⟨rfl, _, _, rfl, hexpired⟩)
  | retain hrefused hrun => exact .inr (.inr ⟨_, _, _, _, _, rfl, rfl, hrefused, hrun⟩)
  | work hrefused hwork => exact absurd ((hrefused.answering_only hsparing).walk hwork).2.1 hop
  | transmit _ _ => exact absurd trivial hop
  | prove hprove =>
      rcases hprove with rfl | ⟨_, rfl⟩
      · exact absurd trivial hop
      · exact absurd trivial hop
  | _ => exact .inl rfl

theorem not_establish (hsparing : c.registry.Sparing) {settings : CacheSettings}
    {held : Option Credential} : ¬ c.Asks r u (.establish id settings held) := by
  intro h
  rcases h.on_cache hsparing not_false with hop | ⟨hop, _⟩ | ⟨_, _, _, _, _, hop, _⟩ <;> cases hop

theorem not_wipe (hsparing : c.registry.Sparing) : ¬ c.Asks r u (.wipe id) := by
  intro h
  rcases h.on_cache hsparing not_false with hop | ⟨hop, _⟩ | ⟨_, _, _, _, _, hop, _⟩ <;> cases hop

theorem of_discard (hsparing : c.registry.Sparing) (h : c.Asks r u (.discard id key)) :
    ∃ held now, u = [⟨.recall id key, (some held, now)⟩] ∧ held.isExpiredAt now = true := by
  rcases h.on_cache hsparing not_false with hop | ⟨hop, hlook⟩ | ⟨_, _, _, _, _, hop, _⟩
  · cases hop
  · cases hop
    exact hlook
  · cases hop

theorem of_retain (hsparing : c.registry.Sparing) {granted : Credential}
    (h : c.Asks r u (.retain id key granted)) :
    c.session.number = id ∧ CredentialCache.key r.uri = key ∧ ∃ refusal a u₁ run,
      u = u₁ ++ run ∧ c.Refused r u₁ refusal a ∧
        Walk (c.answering r refusal a) run (done (.ok granted)) := by
  rcases h.on_cache hsparing not_false with
    hop | ⟨hop, _⟩ | ⟨refusal, a, u₁, run, _, hop, hu, hrefused, hrun⟩
  · cases hop
  · cases hop
  · cases hop
    exact ⟨rfl, rfl, refusal, a, u₁, run, hu, hrefused, hrun⟩

end Asks
end Client

/-! ## Errands and their runs -/

/-- What is done on behalf of a session. -/
inductive Errand where
  | send (session : Session) (request : Request)
  | reset (session : Session)

namespace Errand

/-- On whose behalf an errand is run. -/
def session : Errand → Session
  | send s _ => s
  | reset s => s

/-- Whether an errand sends a request. -/
def isSend : Errand → Bool
  | send _ _ => true
  | reset _ => false

/-- What an errand ends in. -/
abbrev Result : Errand → Type
  | send _ _ => Except Failure Response
  | reset _ => Unit

/-- The program of an errand. -/
def program (registry : Registry) : (e : Errand) → Run e.Result
  | send s r => Client.send ⟨s, registry⟩ r
  | reset s => s.reset

/-- A reset clears the slot, if the session has one; then it empties the cache, and ends. -/
theorem reset_of_walk {s : Session} {u : Transcript World} {op : Act}
    {next : op.Answer → Run Unit} (h : Walk s.reset u (ask (I := World) op next)) :
    (op = .forget s.number ∧ ∀ answer v, next answer ≠ done v) ∨
      (op = .wipe s.number ∧ ∀ answer, next answer = done ()) := by
  unfold Session.reset at h
  cases hs : s.identity with
  | anonymous =>
      rw [hs] at h
      rcases walk_ask_iff.1 h with ⟨rfl, hop⟩ | ⟨_, u₁, rfl, hend⟩
      · cases hop
        exact .inr ⟨rfl, fun _ => rfl⟩
      · rcases walk_done_iff.1 hend with ⟨_, hop⟩
        cases hop
  | openId settings renewable =>
      -- such a session has a slot, which it clears first
      rw [hs] at h
      rcases walk_ask_iff.1 h with ⟨rfl, hop⟩ | ⟨_, u₁, rfl, hrest⟩
      · cases hop
        refine .inl ⟨rfl, ?_⟩
        intro answer v hv
        cases hv
      · rcases walk_ask_iff.1 hrest with ⟨rfl, hop⟩ | ⟨_, u₂, rfl, hend⟩
        · cases hop
          exact .inr ⟨rfl, fun _ => rfl⟩
        · rcases walk_done_iff.1 hend with ⟨_, hop⟩
          cases hop

/-- The step of a reset that empties the cache is the one with which it ends. -/
theorem wipe_iff_ended {s : Session} {u : Transcript World} {op : Act} {next : op.Answer → Run Unit}
    (h : Walk s.reset u (ask (I := World) op next)) (answer : op.Answer) :
    op = .wipe s.number ↔ Walk s.reset (u ++ [⟨op, answer⟩]) (done ()) := by
  have hsnoc := h.snoc answer
  constructor
  · intro hop
    rcases reset_of_walk h with ⟨hforget, _⟩ | ⟨_, hend⟩
    · rw [hop] at hforget
      cases hforget
    · rwa [hend answer] at hsnoc
  · intro hended
    rcases reset_of_walk h with ⟨_, hmore⟩ | ⟨hop, _⟩
    · exact absurd (hsnoc.unique hended) (hmore answer ())
    · exact hop

theorem asks_of_walk {registry : Registry} {e : Errand} {u : Transcript World} {op : Act}
    {next : op.Answer → Run e.Result} (h : Walk (e.program registry) u (ask (I := World) op next)) :
    (∃ s, e = .reset s ∧ (op = .forget s.number ∨ op = .wipe s.number)) ∨
      ∃ s r, e = .send s r ∧ Client.Asks ⟨s, registry⟩ r u op := by
  cases e with
  | send s r => exact .inr ⟨s, r, rfl, Client.asks_of_walk h⟩
  | reset s => exact .inl ⟨s, rfl, (reset_of_walk h).imp And.left And.left⟩

theorem wipe_iff_of_walk {registry : Registry} (hsparing : registry.Sparing) {e : Errand}
    {u : Transcript World} {op : Act} {next : op.Answer → Run e.Result}
    (h : Walk (e.program registry) u (ask (I := World) op next)) (answer : op.Answer)
    {id : SessionId} :
    op = .wipe id ↔ ∃ session, e = .reset session ∧ session.number = id ∧
      Walk session.reset (u ++ [⟨op, answer⟩]) (done ()) := by
  cases e with
  | send s r =>
      constructor
      · rintro rfl
        exact ((Client.asks_of_walk h).not_wipe hsparing).elim
      · rintro ⟨session, hreset, _⟩
        cases hreset
  | reset s =>
      constructor
      · rintro rfl
        rcases reset_of_walk h with ⟨hop, _⟩ | ⟨hop, _⟩
        · cases hop
        · cases hop
          exact ⟨s, rfl, rfl, (wipe_iff_ended h answer).1 rfl⟩
      · rintro ⟨session, hreset, rfl, hended⟩
        cases hreset
        exact (wipe_iff_ended h answer).2 hended

variable {ι : Type} [DecidableEq ι]

/-- A run of errands with one registry.  Sessions are told apart by their numbers, nothing has been
negotiated yet, and the authenticators leave the caches to the clients. -/
structure Traffic (registry : Registry) (errands : ι → Errand) (s : Store) (l : List (Event ι)) :
    Prop where
  runs : ∃ d, Runs ⟨s, fun i => (errands i).program registry⟩ l d
  fresh : ∀ i, (s.vault (errands i).session.number).cache.entries = []
  numbered : ∀ i j, (errands i).session.number = (errands j).session.number →
    (errands i).session = (errands j).session
  sparing : registry.Sparing

/-- The send `i` of a session sent a request without credential, for a resource.  It was refused, the
registry selected an authenticator for the refusal, and that returned a credential. -/
inductive Granted (registry : Registry) (errands : ι → Errand) (l : List (Event ι)) (i : ι)
    (session : Session) (uri : Url) (c : Credential) : Prop where
  | mk {r : Request} {refusal : Response} {a : Authenticator} {before run after : Transcript World} :
      errands i = .send session r → r.uri.Alike uri → ¬ Carries r →
      refusal.status = unauthorized → registry.select session refusal.challenges = some a →
      partOf i l = before ++ ⟨.transmit r, .ok refusal⟩ :: (run ++ after) →
      Walk (a.acquire session r (Registry.algorithms refusal.challenges)) run (done (.ok c)) →
      Granted registry errands l i session uri c

/-- A credential for a resource is one for every URI that names it. -/
theorem Granted.alike {registry : Registry} {errands : ι → Errand} {l : List (Event ι)} {i : ι}
    {session : Session} {uri uri' : Url} {c : Credential}
    (h : Granted registry errands l i session uri c) (halike : uri.Alike uri') :
    Granted registry errands l i session uri' c := by
  cases h with
  | mk hsend huri hbare hstatus hselect hpart hrun =>
      exact .mk hsend (huri.trans halike) hbare hstatus hselect hpart hrun

theorem granted_of_refused {registry : Registry} {errands : ι → Errand} {l : List (Event ι)} {i : ι}
    {session : Session} {r : Request} {refusal : Response} {a : Authenticator}
    {u run after : Transcript World} {c : Credential} (hsend : errands i = .send session r)
    (hrefused : Client.Refused ⟨session, registry⟩ r u refusal a)
    (hrun : Walk (Client.answering ⟨session, registry⟩ r refusal a) run (done (.ok c)))
    (hpart : partOf i l = u ++ (run ++ after)) :
    Granted registry errands l i session r.uri c := by
  rcases hrefused.exists_before with ⟨before, rfl⟩
  have hsplit : partOf i l = before ++ ⟨.transmit r, .ok refusal⟩ :: (run ++ after) := by
    rw [hpart, List.append_assoc]
    rfl
  exact .mk hsend (.refl r.uri) hrefused.bare hrefused.status hrefused.selected hsplit hrun

namespace Traffic

variable {registry : Registry} {errands : ι → Errand} {s : Store} {l₁ l₂ : List (Event ι)}
  {e : Event ι} {id : SessionId} {key : String}

theorem of_append (h : Traffic registry errands s (l₁ ++ l₂)) : Traffic registry errands s l₁ := by
  rcases h.runs with ⟨d, hruns⟩
  rcases hruns.of_append with ⟨m, hm, _⟩
  exact ⟨⟨m, hm⟩, h.fresh, h.numbered, h.sparing⟩

theorem asks (h : Traffic registry errands s (l₁ ++ e :: l₂)) :
    (∃ s, errands e.who = .reset s ∧ (e.act = .forget s.number ∨ e.act = .wipe s.number)) ∨
      ∃ s r, errands e.who = .send s r ∧
        Client.Asks ⟨s, registry⟩ r (partOf e.who l₁) e.act := by
  rcases h.runs with ⟨d, hruns⟩
  rcases hruns.event with ⟨⟨next, hwalk⟩, _⟩
  exact asks_of_walk hwalk

/-- Whatever a reset does not ask is asked by a send. -/
theorem send_asks (h : Traffic registry errands s (l₁ ++ e :: l₂))
    (hforget : ∀ id, e.act ≠ .forget id) (hwipe : ∀ id, e.act ≠ .wipe id) :
    ∃ s r, errands e.who = .send s r ∧ Client.Asks ⟨s, registry⟩ r (partOf e.who l₁) e.act := by
  rcases h.asks with ⟨_, _, hreset | hreset⟩ | hsend
  · exact absurd hreset (hforget _)
  · exact absurd hreset (hwipe _)
  · exact hsend

theorem admits (h : Traffic registry errands s (l₁ ++ e :: l₂)) :
    e.act.Admits (storeAfter s l₁) e.time e.answer := by
  rcases h.runs with ⟨d, hruns⟩
  exact hruns.event.2.2

/-- No session is set up along the way. -/
theorem not_establish (h : Traffic registry errands s (l₁ ++ e :: l₂)) (settings : CacheSettings)
    (held : Option Credential) : e.act ≠ .establish id settings held := by
  intro hact
  rcases h.send_asks (by simp [hact]) (by simp [hact]) with ⟨session, r, _, hasks⟩
  rw [hact] at hasks
  exact hasks.not_establish h.sparing

/-- The cache of a session is emptied by the steps in which its resets complete. -/
theorem wipe_iff (h : Traffic registry errands s (l₁ ++ e :: l₂)) :
    e.act = .wipe id ↔ ∃ session, errands e.who = .reset session ∧ session.number = id ∧
      Walk session.reset (partOf e.who (l₁ ++ [e])) (done ()) := by
  rcases h.runs with ⟨d, hruns⟩
  rcases hruns.event with ⟨⟨next, hwalk⟩, _⟩
  rw [partOf_append, partOf_cons_self]
  exact wipe_iff_of_walk h.sparing hwalk e.answer

/-- Only a send that has just found it expired drops a credential. -/
theorem discarded (h : Traffic registry errands s (l₁ ++ e :: l₂)) (hact : e.act = .discard id key) :
    (errands e.who).isSend = true ∧ ∃ held now,
      partOf e.who l₁ = [⟨.recall id key, (some held, now)⟩] ∧ held.isExpiredAt now = true := by
  rcases h.send_asks (by simp [hact]) (by simp [hact]) with ⟨session, r, hsend, hasks⟩
  rw [hact] at hasks
  rw [hsend]
  exact ⟨rfl, hasks.of_discard h.sparing⟩

/-- Whatever is stored in a cache has been granted to the session, for the URI under whose key it is. -/
theorem granted (h : Traffic registry errands s (l₁ ++ e :: l₂)) {c : Credential}
    (hact : e.act = .retain id key c) :
    ∃ session uri, session.number = id ∧ CredentialCache.key uri = key ∧
      (errands e.who).isSend = true ∧ (errands e.who).session = session ∧
      Granted registry errands l₁ e.who session uri c := by
  rcases h.send_asks (by simp [hact]) (by simp [hact]) with ⟨session, r, hsend, hasks⟩
  rw [hact] at hasks
  rcases hasks.of_retain h.sparing with ⟨rfl, rfl, refusal, a, u, run, hpart, hrefused, hrun⟩
  have hsplit : partOf e.who l₁ = u ++ (run ++ []) := by
    rw [hpart, List.append_nil]
  have hgranted := granted_of_refused hsend hrefused hrun hsplit
  refine ⟨session, r.uri, rfl, rfl, ?_, ?_, hgranted⟩
  · rw [hsend]
    rfl
  · rw [hsend]
    rfl

end Traffic
end Errand
end Countersign
