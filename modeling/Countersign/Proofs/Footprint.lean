import Countersign.Proofs.Sending
import Countersign.Proofs.SlotCalls
import Countersign.Uma.Provider

/-!
# Footprint — what the programs of the library ask for

A program can touch any vault, so what a run of many programs keeps depends on what each of them can
ask.  This file bounds the questions of the programs that sessions and authenticators run:

* `Act.External` — questions about what lies outside the store, without a credential;
* `Act.SparesVaults` — these, and questions about discovery documents;
* `Act.SparesCaches` — questions that leave all negotiated credentials alone;
* `Act.Modest` — questions that spare the caches and send no credential;
* `Session.refresh_only`, `Session.proof_only`, `Session.credential_only` — what a session asks;
* `Registry.standard_only` — the authenticators of the library are modest.
-/

namespace Countersign

open Program ClientExchange

/-! ## Kinds of questions -/

namespace Act

/-- Whether a question is about what lies outside the store, and sends no credential there. -/
def External : Act → Prop
  | .transmit up => ¬ Carries up
  | .clock => True
  | .entropy _ => True
  | .freshToken _ => True
  | .pause => True
  | .note _ => True
  | .fileAt _ => True
  | _ => False

/-- Whether a question touches no vault, and sends no credential. -/
def SparesVaults (op : Act) : Prop :=
  op.External ∨ (∃ location, op = .document location) ∨ ∃ location m, op = .keepDocument location m

/-- Whether a question neither reads nor changes what sessions have negotiated. -/
def SparesCaches : Act → Prop
  | .establish _ _ _ => False
  | .recall _ _ => False
  | .discard _ _ => False
  | .retain _ _ _ => False
  | .wipe _ => False
  | _ => True

/-- Whether a question spares the caches and sends no credential. -/
def Modest (op : Act) : Prop :=
  op.SparesCaches ∧ ∀ up, op = .transmit up → ¬ Carries up

theorem External.modest {op : Act} (h : op.External) : op.Modest := by
  cases op with
  | transmit up =>
      refine ⟨trivial, ?_⟩
      intro up' heq
      cases heq
      exact h
  | clock | entropy | freshToken | pause | note | fileAt =>
      refine ⟨trivial, ?_⟩
      intro up heq
      cases heq
  | _ => exact h.elim

theorem SparesVaults.modest {op : Act} (h : op.SparesVaults) : op.Modest := by
  rcases h with hexternal | ⟨location, rfl⟩ | ⟨location, m, rfl⟩
  · exact hexternal.modest
  · exact ⟨trivial, by intro up heq; cases heq⟩
  · exact ⟨trivial, by intro up heq; cases heq⟩

theorem External.respects {op : Act} (h : op.External) (id : SessionId) : Slot.Respects id op := by
  cases op with
  | transmit | clock | entropy | freshToken | pause | note | fileAt => trivial
  | _ => exact h.elim

/-- The questions of a call on a slot are modest. -/
theorem modest_of_slot {op : Act} {id : SessionId}
    (h : op = .look id ∨ op = .acquire id ∨ op = .release id ∨ ∃ outcome, op = .settle id outcome) :
    op.Modest := by
  rcases h with rfl | rfl | rfl | ⟨outcome, rfl⟩
  all_goals
    refine ⟨trivial, ?_⟩
    intro up heq
    cases heq

end Act

/-! ## Requests without credential -/

theorem not_carries_withHeader {r : Request} {name : String} (value : String)
    (hname : name ≠ authorizationField) (h : ¬ Carries r) : ¬ Carries (r.withHeader name value) := by
  intro hcarries
  apply h
  simpa [Carries, Request.withHeader, Headers.contains_append, Ne.symm hname] using hcarries

theorem not_carries_setHeader {r : Request} {name : String} (value : String)
    (hname : name ≠ authorizationField) (h : ¬ Carries r) : ¬ Carries (r.setHeader name value) := by
  intro hcarries
  apply h
  simpa [Carries, Request.setHeader, Headers.contains_set, Ne.symm hname] using hcarries

theorem not_carries_get (uri : Url) : ¬ Carries (Request.get uri) := by
  intro h
  cases h

theorem not_carries_post (endpoint : Url) (t : TicketRequest) : ¬ Carries (t.post endpoint) := by
  have hbare : ¬ Carries { method := "POST", uri := endpoint } := by
    intro h
    cases h
  exact not_carries_withHeader _ (by decide) (not_carries_withHeader _ (by decide) hbare)

/-! ## Sessions -/

/-- What a call on a slot asks, in terms of its refresh. -/
theorem Slot.getOrRefresh_only {P : Act → Prop} {id : SessionId} {refresh : Run Slot.Outcome}
    (hlook : P (.look id)) (hacquire : P (.acquire id)) (hrelease : P (.release id))
    (hrefresh : refresh.Only P)
    (hsettle : ∀ u outcome, Walk refresh u (done outcome) →
      P (.settle id (Slot.outcomeText outcome))) : (Slot.getOrRefresh id refresh).Only P := by
  rw [Slot.getOrRefresh_eq]
  refine ⟨hlook, ?_⟩
  intro x
  dsimp only
  split
  · trivial
  · refine ⟨hacquire, ?_⟩
    intro _
    rw [Slot.underLock_eq]
    refine ⟨hlook, ?_⟩
    intro y
    dsimp only
    split
    · exact ⟨hrelease, fun _ => trivial⟩
    · refine hrefresh.bind_of_walk ?_
      intro u outcome hwalk
      exact ⟨hsettle u outcome hwalk, fun _ => ⟨hrelease, fun _ => trivial⟩⟩

section

variable {P : Act → Prop}

namespace IdToken

theorem judge_only (hclock : P .clock) (settings : VerificationSettings) (token : String)
    (h : TokenHeader) (key : Option VerificationKey) : (judge settings token h key).Only P :=
  Only.bind (Only.perform hclock) fun _ => trivial

theorem fetchKey_only (hsend : ∀ up, ¬ Carries up → P (.transmit up)) (location : Url)
    (identifier : Option String) : (fetchKey location identifier).Only P := by
  have hrequest : ¬ Carries (keyRequest location) :=
    not_carries_withHeader _ (by decide) (not_carries_get location)
  refine Only.bind (Only.perform (hsend _ hrequest)) ?_
  intro answer
  cases answer with
  | error e => trivial
  | ok r => trivial

/-- A verification sends for a key, if it is to, and reads the clock. -/
theorem verify_only_of (hclock : P .clock) (hsend : ∀ up, ¬ Carries up → P (.transmit up))
    (settings : VerificationSettings) (token : String) : (verify settings token).Only P := by
  unfold verify
  cases header settings token with
  | error fault => trivial
  | ok h =>
      cases settings.keyLocation with
      | none => exact judge_only hclock settings token h none
      | some location =>
          refine (fetchKey_only hsend location h.keyIdentifier).bind ?_
          intro key
          cases key with
          | error e => trivial
          | ok key => exact judge_only hclock settings token h (some key)

theorem verify_only (settings : VerificationSettings) (token : String) :
    (verify settings token).Only Act.External :=
  verify_only_of trivial (fun _ h => h) settings token

end IdToken

/-- A refresh asks the source for a token and verifies it. -/
theorem Session.refresh_only_of (hpause : P .pause) (hfresh : ∀ id, P (.freshToken id))
    (hclock : P .clock) (hsend : ∀ up, ¬ Carries up → P (.transmit up)) (s : Session) :
    s.refresh.Only P := by
  unfold refresh
  split
  · refine Only.bind (Only.perform hpause) fun _ => Only.bind (Only.perform (hfresh _)) ?_
    intro token
    cases token with
    | error e => trivial
    | ok token =>
        refine (IdToken.verify_only_of hclock hsend _ token).bind ?_
        intro verified
        cases verified with
        | error e => trivial
        | ok verified => trivial
  · trivial

end

namespace Session

theorem refresh_only (s : Session) : s.refresh.Only Act.External :=
  s.refresh_only_of trivial (fun _ => trivial) trivial fun _ h => h

/-- The refreshes of sessions are fit for concurrent calls on their slots. -/
theorem refresh_tame (s : Session) : Slot.Tame s.number s.refresh :=
  Slot.Tame.of_only (s.refresh_only.mono fun _ h => h.respects s.number)

/-- A proof takes random octets and the time. -/
theorem proof_only (s : Session) (thumbprint : String) (r : Request) :
    (s.proof thumbprint r).Only fun op : Act =>
      op = .clock ∨ ∃ count, op = .entropy count := by
  unfold proof
  cases s.keyring.bind fun ring => (ring.algorithm? thumbprint).map fun a => (ring, a) with
  | none => trivial
  | some found =>
      rcases found with ⟨ring, algorithm⟩
      have hmake : (PossessionProof.make ring algorithm r.method r.uri).Only fun op : Act =>
          op = .clock ∨ ∃ count, op = .entropy count := by
        unfold PossessionProof.make
        cases ring.key? algorithm with
        | none => trivial
        | some k =>
            refine Only.bind (Only.perform (.inr ⟨16, rfl⟩)) fun octets => ?_
            refine Only.bind (Only.perform (.inl rfl)) fun now => ?_
            refine Only.bind (Only.perform (.inr ⟨_, rfl⟩)) ?_
            intro blinding
            split
            · trivial
            · trivial
      refine hmake.bind ?_
      intro outcome
      cases outcome with
      | error e => trivial
      | ok token => trivial

/-- Getting the long-lived credential asks at most what a call on the slot asks. -/
theorem credential_only_of {P : Act → Prop} {s : Session} (name : String)
    (h : (Slot.getOrRefresh s.number s.refresh).Only P) : (s.credential name).Only P := by
  unfold credential
  cases s.identity with
  | anonymous => trivial
  | openId settings renewable =>
      dsimp only
      split
      · exact h
      · trivial

theorem credential_only (s : Session) (name : String) :
    (s.credential name).Only Act.Modest := by
  refine credential_only_of name (Slot.getOrRefresh_only ?_ ?_ ?_ ?_ ?_)
  · exact Act.modest_of_slot (.inl rfl)
  · exact Act.modest_of_slot (.inr (.inl rfl))
  · exact Act.modest_of_slot (.inr (.inr (.inl rfl)))
  · exact s.refresh_only.mono fun _ h => h.modest
  · exact fun _ outcome _ => Act.modest_of_slot (.inr (.inr (.inr ⟨_, rfl⟩)))

end Session

/-! ## Authenticators -/

/-- A call for a discovery document looks for it, and sends for it and keeps it if need be. -/
theorem Discovery.document_only_of {P : Act → Prop} (hlook : ∀ location, P (.document location))
    (hkeep : ∀ location m, P (.keepDocument location m))
    (hsend : ∀ up, ¬ Carries up → P (.transmit up)) (server : Url) : (document server).Only P := by
  have hrequest : ¬ Carries (request (location server)) :=
    not_carries_withHeader _ (by decide) (not_carries_get _)
  refine Only.bind (Only.perform (hlook _)) ?_
  intro known
  cases known with
  | some m => trivial
  | none =>
      refine Only.bind (Only.perform (hsend _ hrequest)) ?_
      intro answer
      cases answer with
      | error e => trivial
      | ok r =>
          dsimp only
          cases read server r with
          | error e => trivial
          | ok m => exact Only.bind (Only.perform (hkeep _ m)) fun _ => trivial

theorem Discovery.document_only (server : Url) : (document server).Only Act.SparesVaults :=
  document_only_of (fun location => .inr (.inl ⟨location, rfl⟩))
    (fun location m => .inr (.inr ⟨location, m, rfl⟩)) (fun _ h => .inl h) server

namespace TicketExchange

theorem proven_only (post : Request) (bound : Option String) :
    (proven post bound).Only fun q => ∀ up, q = Question.post up → ¬ Carries up := by
  cases bound with
  | none => trivial
  | some thumbprint =>
      refine ⟨(by intro up h; cases h), ?_⟩
      intro answer
      rcases answer with e | _ | proof
      all_goals trivial

theorem not_carries_proven {post up : Request} {bound : Option String} {t : Transcript TicketExchange}
    (h : Walk (proven post bound) t (done (.ok up))) (hpost : ¬ Carries post) : ¬ Carries up := by
  cases bound with
  | none =>
      rcases walk_done_iff.1 h with ⟨_, hup⟩
      cases hup
      exact hpost
  | some thumbprint =>
      rcases walk_ask_iff.1 h with ⟨_, hup⟩ | ⟨answer, t', rfl, hrest⟩
      · cases hup
      · -- only an answer with a proof leads to a post
        rcases answer with e | _ | proof
        · rcases walk_done_iff.1 hrest with ⟨_, hup⟩
          cases hup
        · rcases walk_done_iff.1 hrest with ⟨_, hup⟩
          cases hup
        · rcases walk_done_iff.1 hrest with ⟨_, hup⟩
          have hset : withProof post proof = .ok up := by
            injection hup with hup
            exact hup.symm
          rw [(withProof_eq_ok.1 hset).2]
          exact not_carries_setHeader _ (by decide) hpost

theorem gathered_only (handlers : List ClaimHandler) (n : NeedInfo) :
    (gathered handlers n).Only fun q => ∀ up, q = Question.post up → ¬ Carries up := by
  unfold gathered
  cases ClaimHandler.choose handlers n.required with
  | none => trivial
  | some i => exact Only.perform (by intro up h; cases h)

/-- What an exchange posts carries no credential. -/
theorem rounds_only (limit : Nat) (endpoint : Url) (handlers : List ClaimHandler)
    (bound : Option String) (left : Nat) (t : TicketRequest) :
    (rounds limit endpoint handlers bound left t).Only fun q =>
      ∀ up, q = Question.post up → ¬ Carries up := by
  induction left generalizing t with
  | zero => trivial
  | succ left ih =>
      refine (proven_only (t.post endpoint) bound).bind_of_walk ?_
      intro u outcome hwalk
      cases outcome with
      | error e => trivial
      | ok post =>
          have hpost := not_carries_proven hwalk (not_carries_post endpoint t)
          refine Only.bind (Only.perform (by intro up h; cases h; exact hpost)) ?_
          intro answer
          cases answer with
          | error e => trivial
          | ok r =>
              dsimp only
              cases verdict r with
              | granted token => trivial
              | refused e => trivial
              | asked n =>
                  refine (gathered_only handlers n).bind ?_
                  intro claim
                  cases claim with
                  | error e => trivial
                  | ok claim => exact ih _

variable {P : Act → Prop}

theorem run_only {limit : Nat} {session : Session} {endpoint : Url} {t : TicketRequest}
    {handlers : List ClaimHandler} {bound : Option String} (hspares : ∀ op, Act.SparesVaults op → P op)
    (hgather : ∀ h ∈ handlers, h.gather.Only P) :
    (run limit session endpoint t handlers bound).Only P := by
  refine (rounds_only limit endpoint handlers bound limit t).interpret ?_
  intro q hq
  cases q with
  | post up => exact Only.perform (hspares _ (.inl (hq up rfl)))
  | gather i =>
      show (ClaimHandler.gatherAt handlers i).Only P
      unfold ClaimHandler.gatherAt
      cases hi : handlers[i]? with
      | none => trivial
      | some h => exact hgather h (List.mem_of_getElem? hi)
  | prove thumbprint r =>
      refine (session.proof_only thumbprint r).mono ?_
      rintro op (rfl | ⟨count, rfl⟩)
      · exact hspares _ (.inl trivial)
      · exact hspares _ (.inl trivial)

end TicketExchange

/-- What holds of the authenticators of both providers holds of the one that is selected. -/
theorem Registry.of_standard {P : Authenticator → Prop} {settings : NegotiationSettings}
    {tickets : TicketProvider} {s : Session} {cs : List Challenge} {a : Authenticator}
    (hidentity : ∀ needsProof, P (IdToken.authenticator needsProof))
    (htickets : ∀ c, P (tickets.authenticator c))
    (hselect : (Registry.standard settings tickets).select s cs = some a) : P a := by
  have hproviders : ∀ p ∈ [IdToken.provider, tickets.provider], ∀ c b,
      p.authenticator c = .ok b → P b := by
    intro p hp c b hb
    simp only [List.mem_cons, List.not_mem_nil, or_false] at hp
    rcases hp with rfl | rfl
    · unfold IdToken.provider at hb
      dsimp only at hb
      split at hb
      · cases hb
        exact hidentity true
      · split at hb
        · cases hb
          exact hidentity false
        · cases hb
    · unfold TicketProvider.provider at hb
      dsimp only at hb
      cases hticket : TicketChallenge.ofChallenge c with
      | error e =>
          rw [hticket] at hb
          cases hb
      | ok ticket =>
          rw [hticket] at hb
          cases hb
          exact htickets ticket
  rcases exists_provider_of_select hselect with ⟨e, he, c, hc⟩
  exact forall_build (P := fun p => ∀ c b, p.authenticator c = .ok b → P b) hproviders e he c a hc

section

variable {P : Act → Prop}

/-- An exchange of tickets asks for claims, beside what touches no vault. -/
theorem TicketProvider.exchange_only {p : TicketProvider} {s : Session}
    (hspares : ∀ op, Act.SparesVaults op → P op) (hgather : ∀ h ∈ p.handlers, h.gather.Only P)
    (c : TicketChallenge) (idToken : Option Credential) (m : Metadata) :
    (p.exchange c s idToken m).Only P := by
  refine (TicketExchange.run_only hspares hgather).bind ?_
  intro answer
  cases answer with
  | error e => trivial
  | ok token => exact Only.bind (Only.perform (hspares _ (.inl trivial))) fun now => trivial

/-- Obtaining a credential for a ticket asks for the identity token of the session as well. -/
theorem TicketProvider.acquire_only {p : TicketProvider} {s : Session}
    (hspares : ∀ op, Act.SparesVaults op → P op) (hcredential : (s.credential IdToken.name).Only P)
    (hgather : ∀ h ∈ p.handlers, h.gather.Only P) (c : TicketChallenge) : (p.acquire c s).Only P := by
  refine hcredential.bind ?_
  intro idToken
  cases idToken with
  | error e => trivial
  | ok idToken =>
      refine ((Discovery.document_only c.server).mono hspares).bind ?_
      intro document
      cases document with
      | error e => trivial
      | ok m => exact exchange_only hspares hgather c idToken m

/-- What the authenticators of the library ask for a session, beside what touches no vault: its identity
token, and claims. -/
theorem Registry.standard_only_of {settings : NegotiationSettings} {tickets : TicketProvider}
    {s s' : Session} {cs : List Challenge} {a : Authenticator}
    (hspares : ∀ op, Act.SparesVaults op → P op)
    (hcredential : (s'.credential IdToken.name).Only P)
    (hgather : ∀ h ∈ tickets.handlers, h.gather.Only P)
    (hselect : (Registry.standard settings tickets).select s cs = some a) (r : Request)
    (names : Names) : (a.acquire s' r names).Only P := by
  refine of_standard (P := fun b => (b.acquire s' r names).Only P) ?_ ?_ hselect
  · -- both kinds of tokens are presented alike
    intro needsProof
    exact hcredential.map _
  · intro ticket
    exact TicketProvider.acquire_only hspares hcredential hgather ticket

end

/-- Whatever is negotiated with the authenticators of the library spares the caches and sends no
credential, if the handlers of claims do so. -/
theorem Registry.standard_only {settings : NegotiationSettings} {tickets : TicketProvider}
    (hgather : ∀ h ∈ tickets.handlers, h.gather.Only Act.Modest) {s : Session}
    {cs : List Challenge} {a : Authenticator}
    (hselect : (Registry.standard settings tickets).select s cs = some a) (s' : Session)
    (r : Request) (names : Names) : (a.acquire s' r names).Only Act.Modest :=
  standard_only_of (fun _ h => h.modest) (s'.credential_only IdToken.name) hgather hselect r names

end Countersign
