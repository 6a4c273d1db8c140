import Countersign.Proofs.Acquiring
import Countersign.Proofs.Errands

/-!
# Failed negotiation — a refusal is the answer, and nothing is kept

A negotiation can fail in many ways, some of which look like the failures of a send itself.  The ones are
hidden behind the refusal that was to be negotiated, the others are reported.  This file tells them
apart:

* `Act.AddsNothing` — an operation leaves no more in the caches than there was;
* `Blamed r t e` — the exchange `t` for `r` failed with `e` in what it did itself;
* `Hidden r t v` — the exchange `t` for `r` ended in its refusal `v` when the negotiation failed;
* `Client.Routed` — both, for a client in the world;
* `failed_negotiation` — every client keeps to this, however its authenticators fail;
* `failed_visibly` — what an authenticator that fails may have done before.
-/

namespace Countersign

open Program

/-! ## Operations that add nothing -/

/-- Whether an operation adds nothing to what the caches of sessions hold. -/
def Act.AddsNothing (op : Act) : Prop :=
  ∀ (s : Store) id key c, ((op.onStore s).vault id).cache.find? key = some c →
    (s.vault id).cache.find? key = some c

theorem Act.addsNothing_of_not_touches {op : Act}
    (h : ∀ id key, op.touches id key = false) : op.AddsNothing := by
  intro s id key c hfound
  rw [find?_onStore s (h id key)] at hfound
  exact hfound

theorem Act.SparesCaches.addsNothing {op : Act} (h : op.SparesCaches) : op.AddsNothing := by
  apply Act.addsNothing_of_not_touches
  intro id key
  cases op with
  | transmit | clock | entropy | freshToken | pause | note | fileAt => rfl
  | look | acquire | release | settle | forget | document | keepDocument => rfl
  | _ => exact h.elim

theorem Act.addsNothing_discard (i : SessionId) (k : String) : (Act.discard i k).AddsNothing := by
  intro s id key c hfound
  by_cases htouch : (Act.discard i k).touches id key = true
  · -- what is dropped is held no longer
    simp only [Act.touches, Bool.and_eq_true, beq_iff_eq] at htouch
    rcases htouch with ⟨rfl, rfl⟩
    rw [Act.onStore, Store.update_vault_self] at hfound
    simp [Keyed.find?_erase_self] at hfound
  · rw [find?_onStore s (Bool.eq_false_iff.2 htouch)] at hfound
    exact hfound

/-- To look for a credential adds nothing. -/
theorem Session.cached_only (s : Session) (r : Request) :
    (s.cached r).Only fun op : Act => op.AddsNothing := by
  rw [Session.cached_eq]
  refine ⟨Act.addsNothing_of_not_touches fun _ _ => rfl, ?_⟩
  rintro ⟨_ | held, now⟩
  · trivial
  · dsimp only
    split
    · exact ⟨Act.addsNothing_discard _ _, fun _ => trivial⟩
    · trivial

/-! ## Exchanges that fail -/

namespace ClientExchange

variable {r : Request} {c : Credential} {b t : Transcript ClientExchange} {e : Failure}
  {v : Except Failure Response}

/-- Building a request with a credential failed, and nothing but the request itself was sent. -/
structure Unbuilt (r : Request) (t : Transcript ClientExchange) (c : Credential) (e : Failure) :
    Prop where
  offered : Offered r t c
  built : ∃ t₁ b, t = t₁ ++ b ∧ Built r c b (.error e)
  unsent : ∀ s ∈ sent t, s.1 = r

/-- What an exchange that failed failed in: its latest transmission, or building an upgraded request.
There a header value was illegal, or a proof could not be made. -/
inductive Blamed (r : Request) (t : Transcript ClientExchange) : Failure → Prop where
  | transmitting {up : Request} (cause : TransportError) :
      (sent t).getLast? = some (up, .error cause) → Blamed r t (.transport cause)
  | header {c : Credential} (reason : String) :
      Unbuilt r t c (.transport (.invalidRequest reason)) →
      Blamed r t (.transport (.invalidRequest reason))
  | proof {c : Credential} (cause : ProofError) :
      Unbuilt r t c (.proof cause) → Blamed r t (.proof cause)

/-- An exchange ended in the first answer, a refusal, and sent nothing else. -/
structure Hidden (r : Request) (t : Transcript ClientExchange) (v : Except Failure Response)
    (refusal : Response) : Prop where
  value : v = .ok refusal
  status : refusal.status = unauthorized
  sent : sent t = [(r, .ok refusal)]

theorem setField_eq_error {name value : String} (h : setField r name value = .error e) :
    ∃ reason, e = .transport (.invalidRequest reason) := by
  unfold setField at h
  split at h
  · cases h
  · cases h
    exact ⟨_, rfl⟩

theorem Built.fault (h : Built r c b (.error e)) :
    (∃ reason, e = .transport (.invalidRequest reason)) ∨ ∃ cause, e = .proof cause := by
  generalize hx : (Except.error e : Except Failure Request) = x at h
  cases h with
  | illegal hset =>
      cases hx
      exact .inl (setField_eq_error hset)
  | plain _ _ => cases hx
  | unbound _ _ _ =>
      cases hx
      exact .inr ⟨_, rfl⟩
  | failed _ _ _ _ =>
      cases hx
      exact .inr ⟨_, rfl⟩
  | unknown _ _ _ =>
      cases hx
      exact .inr ⟨_, rfl⟩
  | proven _ _ _ _ => exact .inl (setField_eq_error hx.symm)

theorem Unbuilt.blamed (h : Unbuilt r t c e) : Blamed r t e := by
  rcases h.built with ⟨_, b, _, hb⟩
  rcases hb.fault with ⟨reason, rfl⟩ | ⟨cause, rfl⟩
  · exact .header reason h
  · exact .proof cause h

theorem blamed_of_mapError {up : Request} {answer : Except TransportError Response}
    (hlast : (sent t).getLast? = some (up, answer))
    (he : (answer.mapError .transport : Except Failure Response) = .error e) : Blamed r t e := by
  cases answer with
  | error cause =>
      cases he
      exact .transmitting cause hlast
  | ok a => cases he

/-- An exchange that fails has itself to blame. -/
theorem Sequence.blamed (h : Sequence r t v) (hv : v = .error e) : Blamed r t e := by
  -- what is sent last is to blame, or the request that could not be built; a refusal is no failure
  cases h with
  | own answer _ => exact blamed_of_mapError rfl hv
  | cached answer _ hb => exact blamed_of_mapError (by simp [ClientExchange.sent, hb.silent.1]; rfl) hv
  | @cachedUnbuilt c b _ _ hb =>
      cases hv
      refine Unbuilt.blamed (c := c) ⟨.inl (.head _), ⟨[⟨.recall r, some c⟩], b, rfl, hb⟩, ?_⟩
      simp [ClientExchange.sent, hb.silent.1]
  | unchallenged answer _ _ => exact blamed_of_mapError rfl hv
  | unresolved _ _ _ _ => cases hv
  | retried answer _ _ hb => exact blamed_of_mapError (by simp [ClientExchange.sent, hb.silent.1]; rfl) hv
  | @retryUnbuilt refusal c b _ _ _ hb =>
      cases hv
      refine Unbuilt.blamed (c := c) ⟨.inr ⟨refusal, .tail _ (.tail _ (.head _))⟩,
        ⟨[⟨.recall r, none⟩, ⟨.transmit r, .ok refusal⟩, ⟨.negotiate r refusal, .ok (some c)⟩], b,
          rfl, hb⟩, ?_⟩
      simp [ClientExchange.sent, hb.silent.1]

/-- What an exchange has recorded when its request is refused. -/
def refusedRecord (r : Request) (refusal : Response) : Transcript ClientExchange :=
  [⟨.recall r, none⟩, ⟨.transmit r, .ok refusal⟩]

/-- There is one place for a negotiation that fails, and the exchange ends there. -/
theorem Sequence.of_failed {cause : AuthError} (h : Sequence r t v)
    (hfailed : .error cause ∈ negotiated t) :
    ∃ refusal, t = refusedRecord r refusal ++ [⟨.negotiate r refusal, .error cause⟩] ∧
      v = .ok refusal ∧ refusal.status = unauthorized ∧ ¬ Carries r := by
  cases h with
  | own answer _ => cases hfailed
  | unchallenged answer _ _ => cases hfailed
  | cached answer _ hb => simp [negotiated, hb.silent.2] at hfailed
  | cachedUnbuilt _ hb => simp [negotiated, hb.silent.2] at hfailed
  | retried answer _ _ hb => simp [negotiated, hb.silent.2] at hfailed
  | retryUnbuilt _ _ hb => simp [negotiated, hb.silent.2] at hfailed
  | @unresolved refusal outcome hbare hstatus _ =>
      have houtcome : outcome = .error cause := by
        simpa [negotiated, eq_comm] using hfailed
      subst houtcome
      exact ⟨refusal, rfl, rfl, hstatus, hbare⟩

theorem Sequence.hidden {cause : AuthError} (h : Sequence r t v)
    (hfailed : .error cause ∈ negotiated t) : ∃ refusal, Hidden r t v refusal := by
  rcases h.of_failed hfailed with ⟨refusal, rfl, rfl, hstatus, _⟩
  exact ⟨refusal, rfl, hstatus, rfl⟩

/-- Whatever a refusal's negotiation fails with, the refusal is the answer. -/
theorem walk_failed {refusal : Response} (hbare : ¬ Carries r)
    (hstatus : refusal.status = unauthorized) (cause : AuthError) :
    Walk (program r) (refusedRecord r refusal ++ [⟨.negotiate r refusal, .error cause⟩])
      (done (.ok refusal)) := by
  unfold program
  rw [if_neg (show ¬ r.headers.contains authorizationField = true from hbare)]
  refine .answered (.answered ?_)
  show Walk (afterAnswer r refusal) _ _
  unfold afterAnswer
  rw [if_pos hstatus]
  exact .answered (.here _)

end ClientExchange

/-! ## Clients -/

open ClientExchange

namespace Client

variable {c : Client} {r : Request} {u w : Transcript World} {refusal : Response}
  {a : Authenticator} {cause : AuthError}

/-- Up to the refusal a send has added nothing to a cache. -/
theorem Refused.addsNothing (h : c.Refused r u refusal a) : ∀ x ∈ u, x.1.AddsNothing := by
  rcases h.served.of_cons with ⟨u₁, u₂, rfl, hlook, hrest⟩
  rcases hrest.of_cons with ⟨u₃, u₄, rfl, hfirst, hnone⟩
  cases hnone
  have htransmit : (perform (I := World) (.transmit r)).Only fun op : Act => op.AddsNothing :=
    Only.perform (Act.addsNothing_of_not_touches fun _ _ => rfl)
  intro x hx
  rw [List.append_nil] at hx
  rcases List.mem_append.1 hx with hx | hx
  · exact ((c.session.cached_only r).walk hlook).1 x hx
  · exact (htransmit.walk hfirst).1 x hx

/-- A negotiation fails as the authenticator does that it has selected. -/
theorem walk_negotiate_failed :
    Walk (c.registry.negotiate c.session r refusal.challenges) w (done (.error cause)) ↔
      ∃ a, c.registry.select c.session refusal.challenges = some a ∧
        Walk (c.answering r refusal a) w (done (.error cause)) :=
  walk_negotiate_error

/-- What becomes of the failures of a client's send. -/
structure Routed (c : Client) (r : Request) : Prop where
  /-- However the authenticator fails that a refusal has started, the refusal is the answer. -/
  refused : ∀ u refusal a w cause, c.Refused r u refusal a →
    Walk (c.answering r refusal a) w (done (.error cause)) →
    Walk (c.send r) (u ++ w) (done (.ok refusal))
  /-- A send that ends with an error has itself to blame.  One whose negotiation failed ends with the
  authenticator, and nothing has been stored but what that has stored by itself; the authenticators of a
  sparing registry store nothing. -/
  ended : ∀ u v, Walk (c.send r) u (done v) →
    ∃ t, Walk (program r) t (done v) ∧ Served c.inWorld t u ∧ (∀ e, v = .error e → Blamed r t e) ∧
      ∀ cause, .error cause ∈ negotiated t → ∃ refusal a u₁ w, Hidden r t v refusal ∧ u = u₁ ++ w ∧
        c.Refused r u₁ refusal a ∧ Walk (c.answering r refusal a) w (done (.error cause)) ∧
        (∀ x ∈ u₁, x.1.AddsNothing) ∧ (c.registry.Sparing → ∀ x ∈ w, x.1.AddsNothing)

theorem routed (c : Client) (r : Request) : Routed c r where
  refused u refusal a w cause hrefused hfailed := by
    have hnegotiate := walk_negotiate_failed.2 ⟨a, hrefused.selected, hfailed⟩
    have hserved : Served c.inWorld [⟨.negotiate r refusal, .error cause⟩] w :=
      .cons hnegotiate .none (List.append_nil w)
    exact (walk_failed hrefused.bare hrefused.status cause).interpret
      (Served.append (t := refusedRecord r refusal) hrefused.served hserved)
  ended u v h := by
    rcases h.of_interpret_done with ⟨t, ht, hserved⟩
    have hsequence := sequence_of_walk ht
    refine ⟨t, ht, hserved, fun e => hsequence.blamed, ?_⟩
    intro cause hfailed
    rcases hsequence.hidden hfailed with ⟨refusal, hhidden⟩
    rcases hsequence.of_failed hfailed with ⟨refusal', rfl, hv, hstatus, hbare⟩
    have hsame : refusal' = refusal := by
      have hvalue := hv.symm.trans hhidden.value
      cases hvalue
      rfl
    subst hsame
    -- the look, the first transmission, and then the negotiation
    rcases hserved.of_append with ⟨u₁, u₂, rfl, hfront, hback⟩
    rcases hback.of_cons with ⟨w, u₃, rfl, hnegotiate, hnone⟩
    cases hnone
    rcases walk_negotiate_failed.1 hnegotiate with ⟨a, hselect, hwork⟩
    have hrefused : c.Refused r u₁ refusal' a := ⟨hbare, hstatus, hselect, hfront⟩
    refine ⟨refusal', a, u₁, w, hhidden, by simp, hrefused, hwork, hrefused.addsNothing, ?_⟩
    intro hsparing x hx
    exact (((hrefused.answering_only hsparing).walk hwork).1 x hx).addsNothing

end Client

/-- A failed negotiation is hidden behind the refusal that it began with.  That holds of every exchange,
whatever answers its questions, and of every client, however its authenticators fail.  With the registries
of the library nothing is stored, and their authenticators of tickets fail in the ways that are listed for
them. -/
theorem failed_negotiation (r : Request) :
    (∀ t v, Walk (program r) t (done v) →
      (∀ e, v = .error e → Blamed r t e) ∧
        ∀ cause, .error cause ∈ negotiated t → ∃ refusal, Hidden r t v refusal) ∧
    (∀ c : Client, c.Routed r) ∧
    (∀ settings (tickets : TicketProvider), (∀ h ∈ tickets.handlers, h.gather.Only Act.Modest) →
      (Registry.standard settings tickets).Sparing) ∧
    (∀ (p : TicketProvider) (c : TicketChallenge) (s : Session) u v,
      Walk (p.acquire c s) u (done v) ↔ TicketProvider.Acquired p c s u v) ∧
    ∀ (p : TicketProvider) (c : TicketChallenge) (s : Session) idToken m u v,
      Walk (p.exchange c s idToken m) u (done v) ↔ TicketProvider.Exchanged p c s idToken m u v := by
  refine ⟨?_, fun c => c.routed r, fun _ _ => Registry.standard_sparing,
    fun _ _ _ _ _ => TicketProvider.walk_acquire_iff,
    fun _ _ _ _ _ _ _ => TicketProvider.walk_exchange_iff⟩
  intro t v h
  have hsequence := sequence_of_walk h
  exact ⟨fun e => hsequence.blamed, fun cause => hsequence.hidden⟩

/-! ### Authenticators that keep something, and ask for the resource -/

namespace Meddling

/-- A server whose discovery document is refused as well. -/
def closed : Url := { scheme := "urn", path := "as" }

/-- The refusal of the document, with a challenge for a ticket of the server. -/
def shut : Response where
  status := unauthorized
  uri := Discovery.location closed
  headers := ({} : Headers).set "www-authenticate"
    (Utf8.encode "UMA as_uri=\"urn:as\", ticket=\"t\"")

/-- A client with the authenticators of the library. -/
def plain : Client := ⟨⟨0, "guest", .anonymous⟩, .standard {} {}⟩

/-- A send for the document itself, in an outside in which every request is refused. -/
def locked : Outside Unit := .still fun _ => .ok shut

end Meddling

open Meddling in
/-- A negotiation fails, and yet the session keeps a credential for the page that was refused, since its
authenticator made it authenticate a request of its own.  And a negotiation that needs the document of a
server asks for it a second time if it is the document that was refused. -/
theorem failed_visibly :
    (((client page).send (.get page)).alone outside ({}, ())).1 = .ok refusal ∧
      (({} : Store).vault 0).cache.find? (CredentialCache.key page) = none ∧
      ((behind page).vault 0).cache.find? (CredentialCache.key page) = some token ∧
      ((plain.send (.get (Discovery.location closed))).alone locked ({}, ())).1 = .ok shut ∧
      (plain.send (.get (Discovery.location closed))).transmitted locked ({}, ()) =
        [.get (Discovery.location closed), Discovery.request (Discovery.location closed)] :=
  ⟨by decide +kernel, rfl, by decide +kernel, by decide +kernel, by decide +kernel⟩

end Countersign
