import Countersign.Proofs.FailedNegotiation
import Countersign.Proofs.ProofBinding
import Countersign.Proofs.Provenance

/-!
# Failed upgrades — what stays behind when a credential cannot be presented

A credential is stored as soon as its authenticator has returned it, and only then it turns out whether a
request can be built with it.  This file follows the sends that fail at this point:

* `Unpresentable s c e` — no request can be built with `c` on behalf of `s`, for the reason `e`;
* `Unbuildable s c u e` — no request was built: that is why, or the proof could not be signed;
* `Client.Unbuilt` — what a send has asked that failed to present a credential;
* `Client.Stuck` — sends that find a credential fail at once;
* `Client.Leaves` — what such a send changes in the caches;
* `failed_upgrade` — every send that fails failed in its transmission, or in this way.
-/

namespace Countersign

open Program ClientExchange

/-! ## Credentials that cannot be presented -/

namespace ClientExchange

variable {r : Request} {c : Credential} {e e' : Failure} {b : Transcript ClientExchange}
  {u : Transcript World} {keys : List ProofKey} {client : Client}

/-- There is one reason why a credential is withheld. -/
theorem Withheld.unique (h : Withheld keys c e) (h' : Withheld keys c e') : e = e' := by
  -- the text of the credential decides first, then its thumbprint
  cases h with
  | illegal hillegal =>
      cases h' with
      | illegal _ => rfl
      | unbound hlegal _ => exact absurd hlegal hillegal
      | unknown hlegal _ _ => exact absurd hlegal hillegal
  | unbound hlegal hnone =>
      cases h' with
      | illegal hillegal => exact absurd hlegal hillegal
      | unbound _ _ => rfl
      | unknown _ hsome _ =>
          rw [hnone] at hsome
          cases hsome
  | unknown hlegal hsome _ =>
      cases h' with
      | illegal hillegal => exact absurd hlegal hillegal
      | unbound _ hnone =>
          rw [hnone] at hsome
          cases hsome
      | unknown _ hsome' _ =>
          rw [hsome] at hsome'
          cases hsome'
          rfl

/-- No request can be built with a credential, whatever the request: its text is no header value, or it
demands a proof by a key that it does not name or that the session does not have. -/
structure Unpresentable (s : Session) (c : Credential) (e : Failure) : Prop where
  withheld : Withheld s.proofKeys c e
  demands : Legal c → c.isDpop = true

/-- Why no request was built with a credential: it cannot be presented, or this time the proof that it
demands could not be signed. -/
inductive Unbuildable (s : Session) (c : Credential) (u : Transcript World) : Failure → Prop where
  | unpresentable {e : Failure} : Unpresentable s c e → Unbuildable s c u e
  | unsigned : c.isDpop = true → Unsigned s.proofKeys c u → Unbuildable s c u (.proof .signing)

theorem Unbuildable.mono {s : Session} {u' : Transcript World} (h : Unbuildable s c u e)
    (hsub : u ⊆ u') : Unbuildable s c u' e := by
  cases h with
  | unpresentable h => exact .unpresentable h
  | unsigned hdpop h => exact .unsigned hdpop (h.mono hsub)

/-- A credential that cannot be presented fails before it comes to signing. -/
theorem Withheld.not_unsigned (h : Withheld keys c e) : ¬ Unsigned keys c u := by
  rintro ⟨hlegal, ⟨k, huse, hk⟩, _⟩
  cases h with
  | illegal hillegal => exact hillegal hlegal
  | unbound _ hnone =>
      rw [hk] at hnone
      cases hnone
  | unknown _ hsome hno =>
      rw [hk] at hsome
      cases hsome
      exact hno k huse rfl

/-- Whatever else fails, it is the credential. -/
theorem Unbuildable.unpresentable_of_ne {s : Session} (h : Unbuildable s c u e)
    (hne : e ≠ .proof .signing) : Unpresentable s c e := by
  cases h with
  | unpresentable h => exact h
  | unsigned _ _ => exact absurd rfl hne

/-- Building fails only with a credential that cannot be presented, or at a proof that cannot be signed. -/
theorem Built.unbuildable (h : Built r c b (.error e)) (hserved : Served client.inWorld b u) :
    Unbuildable client.session c u e := by
  generalize hx : (Except.error e : Except Failure Request) = x at h
  cases h with
  | illegal hset =>
      cases hx
      have hillegal : ¬ Legal c := by
        intro hlegal
        rw [setField, if_pos (show Headers.isValue (Utf8.encode c.authorization) = true from hlegal)]
          at hset
        cases hset
      exact .unpresentable ⟨illegal_of_setField hset, fun hlegal => absurd hlegal hillegal⟩
  | plain _ _ => cases hx
  | unbound hset hdpop hnone =>
      cases hx
      exact .unpresentable ⟨.unbound (setField_eq_ok hset) hnone, fun _ => hdpop⟩
  | failed cause hset hdpop hsome =>
      cases hx
      rcases hserved.of_cons with ⟨u₁, u₂, rfl, hproof, _⟩
      cases Session.proved_of_walk hproof with
      | @unsigned k huse hk hdry =>
          refine .unsigned hdpop ⟨setField_eq_ok hset, ⟨k, huse, ?_⟩, hdry.mono (by simp)⟩
          rw [hsome, hk]
  | unknown hset hdpop hsome =>
      cases hx
      rcases hserved.of_cons with ⟨u₁, u₂, rfl, hproof, _⟩
      cases Session.proved_of_walk hproof with
      | unknown hnone =>
          exact .unpresentable ⟨.unknown (setField_eq_ok hset) hsome hnone, fun _ => hdpop⟩
  | proven proof hset hdpop _ =>
      -- the text of a proof is a header value
      rcases hserved.of_cons with ⟨u₁, u₂, rfl, hproof, _⟩
      cases Session.proved_of_walk hproof with
      | proven _ _ _ hvalue =>
          rw [setField, if_pos hvalue] at hx
          cases hx

/-- With a credential that cannot be presented building fails. -/
theorem Unpresentable.not_built (h : Unpresentable client.session c e) {up : Request}
    (hserved : Served client.inWorld b u) : ¬ Built r c b (.ok up) := by
  intro hb
  generalize hx : (Except.ok up : Except Failure Request) = x at hb
  cases hb with
  | illegal _ => cases hx
  | unbound _ _ _ => cases hx
  | failed _ _ _ _ => cases hx
  | unknown _ _ _ => cases hx
  | plain hset hdpop =>
      have hdemands := h.demands (setField_eq_ok hset)
      rw [hdpop] at hdemands
      cases hdemands
  | proven proof hset _ hsome =>
      -- the proof was made with a key in use, against any reason to withhold the credential
      rcases hserved.of_cons with ⟨u₁, u₂, rfl, hproof, _⟩
      cases h.withheld with
      | illegal hillegal => exact hillegal (setField_eq_ok hset)
      | unbound _ hnone =>
          rw [hnone] at hsome
          cases hsome
      | unknown _ hsome' hno =>
          rw [hsome'] at hsome
          cases hsome
          cases Session.proved_of_walk hproof with
          | proven huse hk _ _ => exact hno _ huse hk

/-- While a request is built nothing is asked but what a proof takes. -/
theorem Built.served_only {x : Except Failure Request} (h : Built r c b x)
    (hserved : Served client.inWorld b u) :
    ∀ y ∈ u, y.1 = .clock ∨ ∃ count, y.1 = .entropy count := by
  have hone : ∀ {thumbprint : String} {answer : Except ProofError (Option String)},
      Served client.inWorld [⟨.prove thumbprint r, answer⟩] u →
        ∀ y ∈ u, y.1 = .clock ∨ ∃ count, y.1 = .entropy count := by
    intro thumbprint answer hserved
    rcases hserved.of_cons with ⟨u₁, u₂, rfl, hproof, hnone⟩
    cases hnone
    rw [List.append_nil]
    exact ((client.session.proof_only thumbprint r).walk hproof).1
  cases h with
  | failed _ _ _ _ => exact hone hserved
  | unknown _ _ _ => exact hone hserved
  | proven _ _ _ _ => exact hone hserved
  | _ =>
      cases hserved
      simp

end ClientExchange

/-- A live credential is found by one look. -/
theorem cached_of_walk_some {s : Session} {r : Request} {u : Transcript World} {held : Credential}
    (h : Walk (s.cached r) u (done (some held))) :
    ∃ now, u = [⟨.recall s.number (CredentialCache.key r.uri), (some held, now)⟩] ∧
      held.isExpiredAt now = false := by
  cases CredentialCache.getting_of_walk h with
  | live hlive => exact ⟨_, rfl, hlive⟩

theorem silent_of_proof {x : Entry World} (h : x.1 = .clock ∨ ∃ count, x.1 = .entropy count)
    (up : Request) : x.1 ≠ .transmit up := by
  intro hop
  rcases h with hclock | ⟨count, hentropy⟩
  · rw [hop] at hclock
    cases hclock
  · rw [hop] at hentropy
    cases hentropy

namespace Client

variable {c : Client} {r : Request} {cred : Credential} {e : Failure} {u : Transcript World}

/-! ## Sends that fail -/

/-- The latest transmission of a send for `r` failed, and that is how the send ended. -/
def Undelivered (c : Client) (r : Request) (u : Transcript World) (e : Failure) : Prop :=
  ∃ t up cause, Walk (program r) t (done (.error e)) ∧ Served c.inWorld t u ∧
    (sent t).getLast? = some (up, .error cause) ∧ e = .transport cause

/-- What a send has asked that failed to present a credential: it had found the credential in the cache,
or an authenticator had returned it and it was stored. Behind that come only the questions for a proof. -/
inductive Unbuilt (c : Client) (r : Request) (cred : Credential) : Transcript World → Prop where
  | recalled {now : Instant} {b : Transcript World} : ¬ Carries r → cred.isExpiredAt now = false →
      (∀ x ∈ b, x.1 = .clock ∨ ∃ count, x.1 = .entropy count) →
      Unbuilt c r cred (⟨.recall c.session.number (CredentialCache.key r.uri), (some cred, now)⟩ :: b)
  | negotiated {refusal : Response} {a : Authenticator} {u run b : Transcript World} :
      c.Refused r u refusal a → Walk (c.answering r refusal a) run (done (.ok cred)) →
      (∀ x ∈ b, x.1 = .clock ∨ ∃ count, x.1 = .entropy count) →
      Unbuilt c r cred (u ++ (run ++
        ⟨.retain c.session.number (CredentialCache.key r.uri) cred, ()⟩ :: b))

/-- A send that fails could not transmit, or not present its credential. -/
theorem unbuilt_of_walk (h : Walk (c.send r) u (done (.error e))) :
    c.Undelivered r u e ∨ ∃ cred, c.Unbuilt r cred u ∧ Unbuildable c.session cred u e := by
  rcases h.of_interpret_done with ⟨t, ht, hserved⟩
  have hundelivered : ∀ {up : Request} {answer : Except TransportError Response},
      (sent t).getLast? = some (up, answer) →
      (.error e : Except Failure Response) = answer.mapError .transport → c.Undelivered r u e := by
    intro up answer hlast hv
    cases answer with
    | ok a => cases hv
    | error cause =>
        cases hv
        exact ⟨t, up, cause, ht, hserved, hlast, rfl⟩
  have hsequence := sequence_of_walk ht
  -- a complete exchange ends with what its latest transmission brought, or in building a request
  generalize hv : (Except.error e : Except Failure Response) = v at hsequence
  cases hsequence with
  | own answer _ => exact .inl (hundelivered rfl hv)
  | cached answer _ hb => exact .inl (hundelivered (by simp [sent, hb.silent.1]; rfl) hv)
  | unchallenged answer _ _ => exact .inl (hundelivered rfl hv)
  | unresolved _ _ _ _ => cases hv
  | retried answer _ _ hb => exact .inl (hundelivered (by simp [sent, hb.silent.1]; rfl) hv)
  | @cachedUnbuilt held b _ hbare hb =>
      cases hv
      rcases hserved.of_cons with ⟨u₁, u₂, rfl, hlook, hbuilding⟩
      rcases cached_of_walk_some hlook with ⟨now, rfl, hlive⟩
      exact .inr ⟨held, .recalled hbare hlive (hb.served_only hbuilding),
        (hb.unbuildable hbuilding).mono fun x hx => by simp [hx]⟩
  | @retryUnbuilt refusal granted b _ hbare hstatus hb =>
      cases hv
      have hsplit : Served c.inWorld (refusedRecord r refusal ++
          ⟨.negotiate r refusal, .ok (some granted)⟩ :: b) u := hserved
      rcases hsplit.of_append with ⟨u₁, u₂, rfl, hfront, hrest⟩
      rcases hrest.of_cons with ⟨u₃, u₄, rfl, hnegotiate, hbuilding⟩
      rcases negotiate_of_walk_done hnegotiate with ⟨a, run, hselect, rfl, hrun⟩
      refine .inr ⟨granted, ?_, (hb.unbuildable hbuilding).mono fun x hx => by simp [hx]⟩
      have hunbuilt := Unbuilt.negotiated ⟨hbare, hstatus, hselect, hfront⟩ hrun
        (hb.served_only hbuilding)
      simpa using hunbuilt

/-! ## The sends that follow -/

/-- Every send for a resource that finds a credential fails, and hands nothing to the transport. -/
def Stuck (c : Client) (key : String) (cred : Credential) (e : Failure) : Prop :=
  ∀ r now u v, ¬ Carries r → CredentialCache.key r.uri = key → cred.isExpiredAt now = false →
    Walk (c.send r) (⟨.recall c.session.number key, (some cred, now)⟩ :: u) (done v) →
      v = .error e ∧ ∀ x ∈ u, ∀ up, x.1 ≠ .transmit up

theorem stuck_of_unpresentable (h : Unpresentable c.session cred e) (key : String) :
    c.Stuck key cred e := by
  rintro r now u v hbare rfl hlive hwalk
  rcases hwalk.of_interpret_done with ⟨t, ht, hserved⟩
  have hrecalled := (Errand.upFront_of_walk hbare ht hserved hlive).recalled
  have hsequence := sequence_of_walk ht
  -- a recalled credential is presented at once, and that fails
  cases hsequence with
  | own _ hown => exact absurd hown hbare
  | unchallenged _ _ _ => cases hrecalled
  | unresolved _ _ _ _ => cases hrecalled
  | retried _ _ _ _ => cases hrecalled
  | retryUnbuilt _ _ _ => cases hrecalled
  | cached answer _ hb =>
      cases hrecalled
      rcases hserved.of_cons with ⟨u₁, u₂, _, _, hbehind⟩
      rcases hbehind.of_append with ⟨u₃, u₄, _, hbuilding, _⟩
      exact absurd hb (h.not_built hbuilding)
  | cachedUnbuilt _ hb =>
      cases hrecalled
      rcases hserved.of_cons with ⟨u₁, u₂, hu, hlook, hbuilding⟩
      rcases cached_of_walk_some hlook with ⟨now', rfl, _⟩
      cases hu
      refine ⟨?_, fun x hx => silent_of_proof (hb.served_only hbuilding x hx)⟩
      cases hb.unbuildable hbuilding with
      | unpresentable h' => rw [h'.withheld.unique h.withheld]
      | unsigned _ hunsigned => exact absurd hunsigned h.withheld.not_unsigned

end Client

/-! ## The caches behind a send -/

theorem Act.AddsNothing.storeAfter {ι : Type} {l : List (Event ι)} (h : ∀ y ∈ l, y.act.AddsNothing)
    {s : Store} {id : SessionId} {key : String} {c : Credential}
    (hfound : ((storeAfter s l).vault id).cache.find? key = some c) :
    (s.vault id).cache.find? key = some c := by
  induction l using List.reverseRecOn with
  | nil => exact hfound
  | append_singleton l y ih =>
      rw [storeAfter_append] at hfound
      exact ih (fun z hz => h z (List.mem_append_left _ hz)) (h y (by simp) _ _ _ _ hfound)

/-- Whether an operation changes in the caches what lies under one key of one session, and no more. -/
def Act.ConfinedTo (number : SessionId) (k : String) (op : Act) : Prop :=
  ∀ id key, id ≠ number ∨ key ≠ k → op.touches id key = false

theorem Act.ConfinedTo.ne_establish {number : SessionId} {k : String} {op : Act}
    (h : op.ConfinedTo number k) (id : SessionId) (settings : CacheSettings) (x : Option Credential) :
    op ≠ .establish id settings x := by
  rintro rfl
  -- a new cache is another one under every key
  have hother := h id (k ++ "#") (.inr (by simp))
  simp [Act.touches] at hother

theorem Act.confinedTo_of_not_touches {number : SessionId} {k : String} {op : Act}
    (h : ∀ id key, op.touches id key = false) : op.ConfinedTo number k :=
  fun id key _ => h id key

theorem Act.SparesCaches.not_touches {op : Act} (h : op.SparesCaches) (id : SessionId) (key : String) :
    op.touches id key = false := by
  cases op <;> first | rfl | exact h.elim

theorem sparesCaches_of_proof {op : Act} (h : op = .clock ∨ ∃ count, op = .entropy count) :
    op.SparesCaches := by
  rcases h with rfl | ⟨count, rfl⟩ <;> trivial

theorem Session.cached_confined (s : Session) (r : Request) :
    (s.cached r).Only fun op : Act => op.ConfinedTo s.number (CredentialCache.key r.uri) := by
  rw [Session.cached_eq]
  refine ⟨Act.confinedTo_of_not_touches fun _ _ => rfl, ?_⟩
  rintro ⟨_ | held, now⟩
  · trivial
  · dsimp only
    split
    · refine ⟨fun id key hother => ?_, fun _ => trivial⟩
      rcases hother with hid | hkey
      · simp [Act.touches, Ne.symm hid]
      · simp [Act.touches, Ne.symm hkey]
    · trivial

namespace Client

variable {c : Client} {r : Request} {cred : Credential} {refusal : Response} {a : Authenticator}
  {u run b : Transcript World}

/-- Up to its refusal a send changes nothing but what its own resource has in the cache. -/
theorem Refused.confined (h : c.Refused r u refusal a) :
    ∀ x ∈ u, x.1.ConfinedTo c.session.number (CredentialCache.key r.uri) := by
  rcases h.served.of_cons with ⟨u₁, u₂, rfl, hlook, hrest⟩
  rcases hrest.of_cons with ⟨u₃, u₄, rfl, hfirst, hnone⟩
  cases hnone
  have htransmit : (perform (I := World) (.transmit r)).Only fun op : Act =>
      op.ConfinedTo c.session.number (CredentialCache.key r.uri) :=
    Only.perform (Act.confinedTo_of_not_touches fun _ _ => rfl)
  intro x hx
  rw [List.append_nil] at hx
  rcases List.mem_append.1 hx with hx | hx
  · exact ((c.session.cached_confined r).walk hlook).1 x hx
  · exact (htransmit.walk hfirst).1 x hx

/-- What a send changes in the caches that has negotiated a credential and could not present it: the
credential is held under the key of the request, if the cache holds anything, and that is all. -/
structure Leaves (c : Client) (r : Request) (cred : Credential) (s s' : Store) : Prop where
  held : (s.vault c.session.number).cache.keeps = true →
    (s'.vault c.session.number).cache.find? (CredentialCache.key r.uri) = some cred
  dropped : (s.vault c.session.number).cache.keeps = false → ∀ x,
    (s'.vault c.session.number).cache.find? (CredentialCache.key r.uri) = some x →
      (s.vault c.session.number).cache.find? (CredentialCache.key r.uri) = some x
  others : ∀ id key, id ≠ c.session.number ∨ key ≠ CredentialCache.key r.uri →
    (s'.vault id).cache.find? key = (s.vault id).cache.find? key

section

variable (s : Store) (hb : ∀ x ∈ b, x.1 = .clock ∨ ∃ count, x.1 = .entropy count)

include hb

/-- Proofs leave all caches alone. -/
theorem untouched_of_proofs : ∀ y ∈ steps b, ∀ id key, y.act.touches id key = false :=
  forall_steps (P := fun op : Act => ∀ id key, op.touches id key = false) fun x hx =>
    (sparesCaches_of_proof (hb x hx)).not_touches

/-- What is stored last is held, if the cache keeps anything. -/
theorem held_of_steps
    (hkeeps : ((storeAfter s (steps u)).vault c.session.number).cache.keeps = true) :
    ((storeAfter s (steps (u ++ ⟨.retain c.session.number (CredentialCache.key r.uri) cred, ()⟩ ::
      b))).vault c.session.number).cache.find? (CredentialCache.key r.uri) = some cred := by
  rw [steps_append]
  exact find?_of_retain hkeeps rfl fun y hy => untouched_of_proofs hb y hy _ _

theorem keeps_of_steps :
    ((storeAfter s (steps (u ++ ⟨.retain c.session.number (CredentialCache.key r.uri) cred, ()⟩ ::
      b))).vault c.session.number).cache.keeps =
      ((storeAfter s (steps u)).vault c.session.number).cache.keeps := by
  rw [steps_append, storeAfter_append]
  refine keeps_storeAfter ?_
  refine forall_steps (P := fun op : Act => ∀ settings x, op ≠ .establish _ settings x) ?_
  intro z hz settings x hact
  rcases List.mem_cons.1 hz with rfl | hz
  · cases hact
  · have hspares := sparesCaches_of_proof (hb z hz)
    rw [hact] at hspares
    exact hspares

theorem leaves_of_negotiated (hsparing : c.registry.Sparing) (hrefused : c.Refused r u refusal a)
    (hrun : Walk (c.answering r refusal a) run (done (.ok cred))) :
    c.Leaves r cred s (storeAfter s (steps (u ++ (run ++
      ⟨.retain c.session.number (CredentialCache.key r.uri) cred, ()⟩ :: b)))) := by
  have hspares : ∀ x ∈ run, x.1.SparesCaches := ((hrefused.answering_only hsparing).walk hrun).1
  -- what comes before the credential is stored neither sets up the cache nor adds to it
  have hconfined : ∀ y ∈ steps (u ++ run), y.act.ConfinedTo c.session.number
      (CredentialCache.key r.uri) :=
    forall_steps_append hrefused.confined fun x hx =>
      Act.confinedTo_of_not_touches (hspares x hx).not_touches
  have hadds : ∀ y ∈ steps (u ++ run), y.act.AddsNothing :=
    forall_steps_append hrefused.addsNothing fun x hx => (hspares x hx).addsNothing
  have hkeeps : ((storeAfter s (steps (u ++ run))).vault c.session.number).cache.keeps =
      (s.vault c.session.number).cache.keeps :=
    keeps_storeAfter fun y hy settings x => (hconfined y hy).ne_establish _ settings x
  have hproof := untouched_of_proofs hb
  rw [← List.append_assoc]
  refine ⟨fun hkept => held_of_steps s hb (hkeeps.trans hkept), ?_, ?_⟩
  · intro hkept x hfound
    -- storing into a cache that keeps nothing is no change
    rw [steps_append, storeAfter_append, steps_cons, storeAfter_cons,
      find?_storeAfter _ fun y hy => hproof y hy _ _] at hfound
    have hsame : (((Act.retain c.session.number (CredentialCache.key r.uri) cred).onStore
        (storeAfter s (steps (u ++ run)))).vault c.session.number).cache =
          ((storeAfter s (steps (u ++ run))).vault c.session.number).cache := by
      rw [Act.onStore, Store.update_vault_self, Keyed.insert, hkeeps, hkept]
      rfl
    rw [hsame] at hfound
    exact Act.AddsNothing.storeAfter hadds hfound
  · intro id key hother
    refine find?_storeAfter s ?_
    intro y hy
    rw [steps_append] at hy
    rcases List.mem_append.1 hy with hy | hy
    · exact hconfined y hy id key hother
    · rcases List.mem_cons.1 hy with rfl | hy
      · rcases hother with hid | hkey
        · simp [Act.touches, Ne.symm hid]
        · simp [Act.touches, Ne.symm hkey]
      · exact hproof y hy id key

end

/-- The first question of a send without a credential of its own, and how the store answers it. -/
theorem exists_transcript_eq {σ : Type} (hbare : ¬ Carries r) (o : Outside σ) (s : Store) (w : σ) :
    ∃ rest, (c.send r).transcript o.step (s, w) =
      ⟨.recall c.session.number (CredentialCache.key r.uri),
        ((s.vault c.session.number).cache.find? (CredentialCache.key r.uri), o.clock w)⟩ :: rest := by
  rcases exists_program_eq hbare with ⟨next, hprogram, _⟩
  rw [send, hprogram]
  exact ⟨_, rfl⟩

/-- A send found its credential in the cache, asked nothing of the transport, and changed no cache. -/
structure Recalled (c : Client) (r : Request) (cred : Credential) {σ : Type} (o : Outside σ)
    (s : Store) (w : σ) : Prop where
  found : (s.vault c.session.number).cache.find? (CredentialCache.key r.uri) = some cred
  live : cred.isExpiredAt (o.clock w) = false
  silent : ∀ x ∈ (c.send r).transcript o.step (s, w), ∀ up, x.1 ≠ .transmit up
  unchanged : ∀ id key, ((((c.send r).alone o (s, w)).2.1.vault id).cache.find? key) =
    (s.vault id).cache.find? key

/-- A send found no live credential, was refused, and an authenticator returned the credential, which
was stored. -/
structure Negotiated (c : Client) (r : Request) (cred : Credential) {σ : Type} (o : Outside σ)
    (s : Store) (w : σ) : Prop where
  unfound : Credential.liveAt (o.clock w)
    ((s.vault c.session.number).cache.find? (CredentialCache.key r.uri)) = none
  granted : ∃ refusal a u run b, c.Refused r u refusal a ∧
    Walk (c.answering r refusal a) run (done (.ok cred)) ∧
    (∀ x ∈ b, x.1 = .clock ∨ ∃ count, x.1 = .entropy count) ∧
    (c.send r).transcript o.step (s, w) =
      u ++ (run ++ ⟨.retain c.session.number (CredentialCache.key r.uri) cred, ()⟩ :: b)
  held : (((c.send r).alone o (s, w)).2.1.vault c.session.number).cache.keeps = true →
    (((c.send r).alone o (s, w)).2.1.vault c.session.number).cache.find?
      (CredentialCache.key r.uri) = some cred
  leaves : c.registry.Sparing → c.Leaves r cred s ((c.send r).alone o (s, w)).2.1

variable {σ : Type} {o : Outside σ} {s : Store} {w : σ}

/-- Where a credential comes from that a send could not present. -/
theorem Unbuilt.origin (h : c.Unbuilt r cred ((c.send r).transcript o.step (s, w))) :
    c.Recalled r cred o s w ∨ c.Negotiated r cred o s w := by
  have hstore := alone_store o (c.send r) s w
  generalize hu : (c.send r).transcript o.step (s, w) = u at h hstore
  cases h with
  | @recalled now b hbare hlive hb =>
      rcases exists_transcript_eq (c := c) hbare o s w with ⟨rest, hhead⟩
      rw [hu] at hhead
      simp only [List.cons.injEq, Sigma.mk.injEq, heq_eq_eq, true_and, Prod.mk.injEq] at hhead
      rcases hhead with ⟨⟨hfound, rfl⟩, _⟩
      refine .inl ⟨hfound.symm, hlive, ?_, ?_⟩
      · rw [hu]
        intro x hx up hop
        rcases List.mem_cons.1 hx with rfl | hx
        · cases hop
        · exact silent_of_proof (hb x hx) up hop
      · intro id key
        rw [hstore]
        refine find?_storeAfter s fun y hy => ?_
        rcases List.mem_cons.1 hy with rfl | hy
        · rfl
        · exact untouched_of_proofs hb y hy id key
  | @negotiated refusal a u run b hrefused hrun hb =>
      rcases exists_transcript_eq (c := c) hrefused.bare o s w with ⟨rest, hhead⟩
      refine .inr ⟨?_, ⟨refusal, a, u, run, b, hrefused, hrun, hb, hu⟩, ?_, ?_⟩
      · -- the look that came before the refusal found nothing live
        rcases hrefused.served.of_cons with ⟨u₁, u₂, rfl, hlook, _⟩
        rcases cached_of_walk_done hlook with ⟨held, now, u₃, rfl, hnone⟩
        rw [hu] at hhead
        simp only [List.cons_append, List.cons.injEq, Sigma.mk.injEq, heq_eq_eq, true_and,
          Prod.mk.injEq] at hhead
        rcases hhead with ⟨⟨hheld, hnow⟩, _⟩
        rw [← hheld, ← hnow]
        exact hnone.symm
      · rw [hstore, ← List.append_assoc]
        intro hkeeps
        rw [keeps_of_steps s hb] at hkeeps
        exact held_of_steps s hb hkeeps
      · intro hsparing
        rw [hstore]
        exact leaves_of_negotiated s hb hsparing hrefused hrun

/-- What a send that failed in presenting a credential leaves behind, and how it bears on others. -/
structure FailedUpgrade (c : Client) (r : Request) (cred : Credential) (e : Failure) {σ : Type}
    (o : Outside σ) (s : Store) (w : σ) : Prop where
  reason : Unbuildable c.session cred ((c.send r).transcript o.step (s, w)) e
  origin : c.Recalled r cred o s w ∨ c.Negotiated r cred o s w
  /-- A proof that could not be signed this time may be signed the next. -/
  stuck : e ≠ .proof .signing → c.Stuck (CredentialCache.key r.uri) cred e

end Client

open Client in
/-- A send that fails could not deliver a request, or not present a credential.  A credential that came
from the cache stays there, and no cache changes.  One that was just negotiated stays in the cache where
it was stored.  From then on every send for the resource that finds it live fails in the same way, before
anything is handed to the transport, unless it was a proof that could not be signed. -/
theorem failed_upgrade (c : Client) (r : Request) {σ : Type} (o : Outside σ) (s : Store) (w : σ)
    (e : Failure) (h : ((c.send r).alone o (s, w)).1 = .error e) :
    c.Undelivered r ((c.send r).transcript o.step (s, w)) e ∨
      ∃ cred, c.FailedUpgrade r cred e o s w := by
  have hwalk := walk_transcript o.step (c.send r) (s, w)
  have hvalue : ((c.send r).run o.step (s, w)).1 = .error e := h
  rw [hvalue] at hwalk
  rcases unbuilt_of_walk hwalk with hundelivered | ⟨cred, hunbuilt, hreason⟩
  · exact .inl hundelivered
  · refine .inr ⟨cred, hreason, hunbuilt.origin, ?_⟩
    exact fun hne => stuck_of_unpresentable (hreason.unpresentable_of_ne hne) _

/-! ### A credential that names no key -/

namespace Lending

def book : Url := { scheme := "urn", path := "book" }

/-- A credential that demands a proof and names no key. -/
def stamp : Credential := { scheme := dpop, issuer := book, token := "t", expiration := ⟨60, 0⟩ }

/-- Gives the credential to everyone who has a ticket to exchange. -/
def desk : Provider where
  schemes := Names.ofList [uma]
  authenticator _ := .ok { name := "desk", priority := 0, acquire := fun _ _ _ => done (.ok stamp) }

def guest : Client :=
  ⟨⟨0, "guest", .anonymous⟩, (({} : Registry.Draft).withProvider desk).build⟩

def refusal : Response where
  status := unauthorized
  uri := book
  headers := ({} : Headers).set "www-authenticate" (Utf8.encode uma)

/-- An outside in which every request is refused. -/
def outside : Outside Unit where
  transmit _ w := (.ok refusal, w)
  clock _ := ⟨0, 0⟩
  entropy _ w := ([], w)
  freshToken _ w := (.error (.refresh ""), w)
  note _ w := w
  fileAt _ _ := .error .notFound

/-- The store behind the first send. -/
def behind : Store := ((guest.send (.get book)).alone outside ({}, ())).2.1

theorem send_unbound :
    ((guest.send (.get book)).alone outside ({}, ())).1 = .error (.proof .unbound) := by
  decide +kernel

theorem failed_upgrade_stamp :
    ((guest.send (.get book)).alone outside ({}, ())).1 = .error (.proof .unbound) ∧
      ∃ cred, guest.FailedUpgrade (.get book) cred (.proof .unbound) outside {} () := by
  refine ⟨send_unbound, ?_⟩
  rcases failed_upgrade guest (.get book) outside {} () _ send_unbound with hundelivered | hfailed
  · rcases hundelivered with ⟨_, _, _, _, _, _, he⟩
    cases he
  · exact hfailed

/-- Whether an operation hands a request to the transport. -/
def transmits : Act → Bool
  | .transmit _ => true
  | _ => false

/-- The cache did not hold the credential before the send that could not present it.  It does so
afterwards, and the next send fails without handing anything to the transport. -/
theorem stamp_stays :
    ((guest.send (.get book)).alone outside ({}, ())).1 = .error (.proof .unbound) ∧
      (({} : Store).vault 0).cache.find? (CredentialCache.key book) = none ∧
      (behind.vault 0).cache.find? (CredentialCache.key book) = some stamp ∧
      ((guest.send (.get book)).alone outside (behind, ())).1 = .error (.proof .unbound) ∧
      ∀ x ∈ (guest.send (.get book)).transcript outside.step (behind, ()),
        ∀ up, x.1 ≠ .transmit up := by
  refine ⟨send_unbound, rfl, by decide +kernel, by decide +kernel, ?_⟩
  have hall : ((guest.send (.get book)).transcript outside.step (behind, ())).all
      (fun x => !transmits x.1) = true := by decide +kernel
  intro x hx up hop
  have hother := List.all_eq_true.1 hall x hx
  rw [hop] at hother
  cases hother

end Lending
end Countersign
