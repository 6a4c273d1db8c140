import Countersign.Client.Exchange
import Countersign.Proofs.Walk

/-!
# Sending — what one exchange hands to its transport

An exchange for a request asks for a cached credential, sends, negotiates and builds an upgraded
request.  This file follows every walk of `ClientExchange.program`:

* `Built r c t u` — building `r` with the credential `c` asks `t` and gives `u`;
* `Upgrade r c up` — `up` differs from `r` only in the fields of the credential and of its proof;
* `Sequence r t v` — the complete exchanges for `r`, with their values;
* `sequence_of_walk`, `asked_of_walk` — every walk is one of them or on its way;
* `send_sequence` — the exchange of a client, against any session, registry and transport.
-/

namespace Countersign
namespace ClientExchange

open Program

/-! ## Upgraded requests -/

/-- Whether the caller supplied a credential. -/
def Carries (r : Request) : Prop := r.headers.contains authorizationField = true

instance (r : Request) : Decidable (Carries r) := inferInstanceAs (Decidable (_ = true))

/-- Building a request with a credential asks at most for one proof. -/
inductive Built (r : Request) (c : Credential) :
    Transcript ClientExchange → Except Failure Request → Prop where
  | illegal {e : Failure} :
      setField r authorizationField c.authorization = .error e → Built r c [] (.error e)
  | plain {up : Request} :
      setField r authorizationField c.authorization = .ok up → c.isDpop = false →
      Built r c [] (.ok up)
  | unbound {up : Request} :
      setField r authorizationField c.authorization = .ok up → c.isDpop = true →
      c.thumbprint = none → Built r c [] (.error (.proof .unbound))
  | failed {up : Request} {thumbprint : String} (e : ProofError) :
      setField r authorizationField c.authorization = .ok up → c.isDpop = true →
      c.thumbprint = some thumbprint →
      Built r c [⟨.prove thumbprint r, .error e⟩] (.error (.proof e))
  | unknown {up : Request} {thumbprint : String} :
      setField r authorizationField c.authorization = .ok up → c.isDpop = true →
      c.thumbprint = some thumbprint →
      Built r c [⟨.prove thumbprint r, .ok none⟩] (.error (.proof (.unknownThumbprint thumbprint)))
  | proven {up : Request} {thumbprint : String} (proof : String) :
      setField r authorizationField c.authorization = .ok up → c.isDpop = true →
      c.thumbprint = some thumbprint →
      Built r c [⟨.prove thumbprint r, .ok (some proof)⟩] (setField up proofField proof)

/-- The request with a credential: nothing but its field has changed, and the field of the proof
if the credential is bound to a key. -/
structure Upgrade (r : Request) (c : Credential) (up : Request) : Prop where
  method : up.method = r.method
  uri : up.uri = r.uri
  body : up.body = r.body
  timeout : up.timeout = r.timeout
  credential : up.headers.values authorizationField = [Utf8.encode c.authorization]
  bound : c.isDpop = true → ∃ proof, up.headers.values proofField = [Utf8.encode proof]
  unbound : c.isDpop = false → up.headers.values proofField = r.headers.values proofField
  others : ∀ name, name ≠ authorizationField → name ≠ proofField →
    up.headers.values name = r.headers.values name

theorem eq_setHeader_of_setField {r up : Request} {name value : String}
    (h : setField r name value = .ok up) : up = r.setHeader name value := by
  unfold setField at h
  split at h
  · cases h
    rfl
  · cases h

theorem proofField_ne_authorizationField : proofField ≠ authorizationField := by decide

theorem Built.upgrade {r up : Request} {c : Credential} {t : Transcript ClientExchange}
    (h : Built r c t (.ok up)) : Upgrade r c up := by
  generalize hu : (Except.ok up : Except Failure Request) = u at h
  cases h with
  | illegal _ => cases hu
  | unbound _ _ _ => cases hu
  | failed _ _ _ _ => cases hu
  | unknown _ _ _ => cases hu
  | plain hset hdpop =>
      cases hu
      have hup := eq_setHeader_of_setField hset
      subst hup
      refine ⟨rfl, rfl, rfl, rfl, ?_, ?_, ?_, ?_⟩
      · exact Headers.values_set_self _ _ _
      · intro hbound
        rw [hdpop] at hbound
        cases hbound
      · intro _
        exact Headers.values_set_ne _ proofField_ne_authorizationField _
      · intro name hname _
        exact Headers.values_set_ne _ hname _
  | proven proof hset hdpop _ =>
      have hup := eq_setHeader_of_setField hu.symm
      have hsigned := eq_setHeader_of_setField hset
      subst hup hsigned
      refine ⟨rfl, rfl, rfl, rfl, ?_, ?_, ?_, ?_⟩
      · -- the proof is set behind the credential, in a field of its own
        calc
          _ = (r.headers.set authorizationField (Utf8.encode c.authorization)).values
                authorizationField :=
              Headers.values_set_ne _ (Ne.symm proofField_ne_authorizationField) _
          _ = _ := Headers.values_set_self _ _ _
      · intro _
        exact ⟨proof, Headers.values_set_self _ _ _⟩
      · intro hplain
        rw [hdpop] at hplain
        cases hplain
      · intro name hname hproof
        calc
          _ = (r.headers.set authorizationField (Utf8.encode c.authorization)).values name :=
              Headers.values_set_ne _ hproof _
          _ = _ := Headers.values_set_ne _ hname _

theorem Upgrade.carries {r up : Request} {c : Credential} (h : Upgrade r c up) : Carries up := by
  have hvalues := h.credential
  unfold Carries Headers.contains
  unfold Headers.values at hvalues
  cases hlookup : up.headers.entries.lookup authorizationField with
  | none =>
      rw [hlookup] at hvalues
      cases hvalues
  | some vs => rfl

theorem built_of_walk {r : Request} {c : Credential} {t : Transcript ClientExchange}
    {u : Except Failure Request} (h : Walk (authorize r c) t (done u)) : Built r c t u := by
  unfold authorize at h
  -- the clauses of `Built`, in the order in which building can end
  cases hset : setField r authorizationField c.authorization with
  | error e =>
      rw [hset] at h
      rcases walk_done_iff.1 h with ⟨rfl, hu⟩
      cases hu
      exact .illegal hset
  | ok up =>
      simp only [hset] at h
      cases hdpop : c.isDpop with
      | false =>
          simp only [hdpop, Bool.false_eq_true, if_false] at h
          rcases walk_done_iff.1 h with ⟨rfl, hu⟩
          cases hu
          exact .plain hset hdpop
      | true =>
          simp only [hdpop, if_true] at h
          cases hbound : c.thumbprint with
          | none =>
              simp only [hbound] at h
              rcases walk_done_iff.1 h with ⟨rfl, hu⟩
              cases hu
              exact .unbound hset hdpop hbound
          | some thumbprint =>
              simp only [hbound] at h
              rcases walk_ask_iff.1 h with ⟨_, hu⟩ | ⟨answer, t', rfl, hrest⟩
              · cases hu
              · -- the value of the building follows from the answer about the proof
                rcases answer with e | _ | proof
                all_goals
                  rcases walk_done_iff.1 hrest with ⟨rfl, hu⟩
                  cases hu
                · exact .failed e hset hdpop hbound
                · exact .unknown hset hdpop hbound
                · exact .proven proof hset hdpop hbound

/-- Building a request sends nothing. -/
theorem authorize_only (r : Request) (c : Credential) :
    (authorize r c).Only fun q => ∃ thumbprint, q = Question.prove thumbprint r := by
  unfold authorize
  cases setField r authorizationField c.authorization with
  | error e => trivial
  | ok up =>
      dsimp only
      split
      · cases c.thumbprint with
        | none => trivial
        | some thumbprint =>
            refine ⟨⟨thumbprint, rfl⟩, ?_⟩
            intro answer
            rcases answer with e | _ | proof <;> trivial
      · trivial

/-! ## Complete exchanges -/

/-- The complete exchanges for a request.  A caller's own credential is left alone; a cached one is
used up front; otherwise at most one negotiation precedes at most one second request.  An exchange
that fails ends where it failed. -/
inductive Sequence (r : Request) :
    Transcript ClientExchange → Except Failure Response → Prop where
  | own (answer : Except TransportError Response) :
      Carries r → Sequence r [⟨.transmit r, answer⟩] (answer.mapError .transport)
  | cached {c : Credential} {b : Transcript ClientExchange} {up : Request}
      (answer : Except TransportError Response) :
      ¬ Carries r → Built r c b (.ok up) →
      Sequence r (⟨.recall r, some c⟩ :: (b ++ [⟨.transmit up, answer⟩]))
        (answer.mapError .transport)
  | cachedUnbuilt {c : Credential} {b : Transcript ClientExchange} {e : Failure} :
      ¬ Carries r → Built r c b (.error e) →
      Sequence r (⟨.recall r, some c⟩ :: b) (.error e)
  | unchallenged (answer : Except TransportError Response) :
      ¬ Carries r → (∀ a, answer = .ok a → a.status ≠ unauthorized) →
      Sequence r [⟨.recall r, none⟩, ⟨.transmit r, answer⟩] (answer.mapError .transport)
  | unresolved {refusal : Response} (outcome : Except AuthError (Option Credential)) :
      ¬ Carries r → refusal.status = unauthorized → (∀ c, outcome ≠ .ok (some c)) →
      Sequence r
        [⟨.recall r, none⟩, ⟨.transmit r, .ok refusal⟩, ⟨.negotiate r refusal, outcome⟩]
        (.ok refusal)
  | retried {refusal : Response} {c : Credential} {b : Transcript ClientExchange} {up : Request}
      (answer : Except TransportError Response) :
      ¬ Carries r → refusal.status = unauthorized → Built r c b (.ok up) →
      Sequence r
        (⟨.recall r, none⟩ :: ⟨.transmit r, .ok refusal⟩ :: ⟨.negotiate r refusal, .ok (some c)⟩ ::
          (b ++ [⟨.transmit up, answer⟩]))
        (answer.mapError .transport)
  | retryUnbuilt {refusal : Response} {c : Credential} {b : Transcript ClientExchange}
      {e : Failure} :
      ¬ Carries r → refusal.status = unauthorized → Built r c b (.error e) →
      Sequence r
        (⟨.recall r, none⟩ :: ⟨.transmit r, .ok refusal⟩ :: ⟨.negotiate r refusal, .ok (some c)⟩ :: b)
        (.error e)

/-- Without a credential of the caller's own an exchange begins with a look into the cache. -/
theorem exists_program_eq {r : Request} (hbare : ¬ Carries r) :
    ∃ next, program r = ask (I := ClientExchange) (.recall r) next ∧
      ∀ c, next (some c) = sendWith r c := by
  unfold program
  exact ⟨_, if_neg hbare, fun c => rfl⟩

theorem walk_transmit_done {r : Request} {t : Transcript ClientExchange}
    {v : Except Failure Response} (h : Walk (transmit r) t (done v)) :
    ∃ answer : Except TransportError Response,
      t = [⟨.transmit r, answer⟩] ∧ v = answer.mapError .transport := by
  rcases walk_ask_iff.1 h with ⟨_, hv⟩ | ⟨answer, t', rfl, hrest⟩
  · cases hv
  · rcases walk_done_iff.1 hrest with ⟨rfl, hv⟩
    cases hv
    exact ⟨answer, rfl, rfl⟩

theorem walk_sendWith_done {r : Request} {c : Credential} {t : Transcript ClientExchange}
    {v : Except Failure Response} (h : Walk (sendWith r c) t (done v)) :
    (∃ e, Built r c t (.error e) ∧ v = .error e) ∨
      ∃ b up, ∃ answer : Except TransportError Response,
        t = b ++ [⟨.transmit up, answer⟩] ∧ Built r c b (.ok up) ∧
          v = answer.mapError .transport := by
  rcases Walk.of_bind_done h with ⟨u, b, t', rfl, hbuild, hrest⟩
  have hbuilt := built_of_walk hbuild
  cases u with
  | error e =>
      rcases walk_done_iff.1 hrest with ⟨rfl, hv⟩
      cases hv
      exact .inl ⟨e, by simpa using hbuilt, rfl⟩
  | ok up =>
      rcases walk_transmit_done hrest with ⟨answer, rfl, rfl⟩
      exact .inr ⟨b, up, answer, rfl, hbuilt, rfl⟩

/-- Every exchange that ends is one of the complete exchanges. -/
theorem sequence_of_walk {r : Request} {t : Transcript ClientExchange}
    {v : Except Failure Response} (h : Walk (program r) t (done v)) : Sequence r t v := by
  unfold program at h
  by_cases hown : r.headers.contains authorizationField = true
  · rw [if_pos hown] at h
    rcases walk_transmit_done h with ⟨answer, rfl, rfl⟩
    exact .own answer hown
  · rw [if_neg hown] at h
    rcases walk_ask_iff.1 h with ⟨_, hv⟩ | ⟨found, t', rfl, hfound⟩
    · cases hv
    · -- what the cache has is used up front
      rcases found with _ | c
      · rcases Walk.of_bind_done (p := transmit r) hfound with ⟨u, t₁, t₂, rfl, hfirst, hrest⟩
        rcases walk_transmit_done hfirst with ⟨answer, rfl, rfl⟩
        rcases answer with e | refusal
        · rcases walk_done_iff.1 hrest with ⟨rfl, hv⟩
          cases hv
          exact .unchallenged (.error e) hown (by simp)
        · -- only a refusal with the right status is negotiated
          replace hrest : Walk (afterAnswer r refusal) t₂ (done v) := hrest
          unfold afterAnswer at hrest
          by_cases hstatus : refusal.status = unauthorized
          · rw [if_pos hstatus] at hrest
            rcases walk_ask_iff.1 hrest with ⟨_, hv⟩ | ⟨outcome, t₃, rfl, hretry⟩
            · cases hv
            · rcases outcome with e | _ | c
              · rcases walk_done_iff.1 hretry with ⟨rfl, hv⟩
                cases hv
                exact .unresolved (.error e) hown hstatus (by simp)
              · rcases walk_done_iff.1 hretry with ⟨rfl, hv⟩
                cases hv
                exact .unresolved (.ok none) hown hstatus (by simp)
              · rcases walk_sendWith_done hretry with ⟨e, hb, rfl⟩ | ⟨b, up, answer, rfl, hb, rfl⟩
                · exact .retryUnbuilt hown hstatus hb
                · exact .retried answer hown hstatus hb
          · rw [if_neg hstatus] at hrest
            rcases walk_done_iff.1 hrest with ⟨rfl, hv⟩
            cases hv
            refine .unchallenged (.ok refusal) hown ?_
            intro a ha
            cases ha
            exact hstatus
      · rcases walk_sendWith_done hfound with ⟨e, hb, rfl⟩ | ⟨b, up, answer, rfl, hb, rfl⟩
        · exact .cachedUnbuilt hown hb
        · exact .cached answer hown hb

/-! ## Exchanges on their way -/

/-- What an exchange has recorded when it asks for an answer to `up`. -/
inductive BeforeTransmit (r : Request) : Transcript ClientExchange → Request → Prop where
  | own : Carries r → BeforeTransmit r [] r
  | first : ¬ Carries r → BeforeTransmit r [⟨.recall r, none⟩] r
  | cached {c : Credential} {b : Transcript ClientExchange} {up : Request} :
      ¬ Carries r → Built r c b (.ok up) → BeforeTransmit r (⟨.recall r, some c⟩ :: b) up
  | retry {refusal : Response} {c : Credential} {b : Transcript ClientExchange} {up : Request} :
      ¬ Carries r → refusal.status = unauthorized → Built r c b (.ok up) →
      BeforeTransmit r
        (⟨.recall r, none⟩ :: ⟨.transmit r, .ok refusal⟩ :: ⟨.negotiate r refusal, .ok (some c)⟩ :: b)
        up

theorem walk_sendWith_ask {r : Request} {c : Credential} {t : Transcript ClientExchange}
    {q : ClientExchange.Op} {next : ClientExchange.Answer q → Program ClientExchange _}
    (h : Walk (sendWith r c) t (ask q next)) :
    (∃ thumbprint, q = Question.prove thumbprint r) ∨
      ∃ up, q = Question.transmit up ∧ Built r c t (.ok up) := by
  rcases Walk.of_bind_ask h with ⟨rest, hbuild⟩ | ⟨u, b, t', rfl, hbuild, hrest⟩
  · exact .inl ((authorize_only r c).walk hbuild).2.1
  · have hbuilt := built_of_walk hbuild
    cases u with
    | error e =>
        rcases walk_done_iff.1 hrest with ⟨_, hq⟩
        cases hq
    | ok up =>
        rcases walk_ask_iff.1 hrest with ⟨rfl, hq⟩ | ⟨answer, t'', rfl, hdone⟩
        · cases hq
          exact .inr ⟨up, rfl, by simpa using hbuilt⟩
        · rcases walk_done_iff.1 hdone with ⟨_, hq⟩
          cases hq

/-- The questions that an exchange asks, each with what it has recorded before. -/
inductive Asked (r : Request) : Transcript ClientExchange → ClientExchange.Op → Prop where
  | recall : ¬ Carries r → Asked r [] (.recall r)
  | transmit {t : Transcript ClientExchange} {up : Request} :
      BeforeTransmit r t up → Asked r t (.transmit up)
  | negotiate {refusal : Response} :
      ¬ Carries r → refusal.status = unauthorized →
      Asked r [⟨.recall r, none⟩, ⟨.transmit r, .ok refusal⟩] (.negotiate r refusal)
  | prove {t : Transcript ClientExchange} (thumbprint : String) :
      ¬ Carries r → Asked r t (.prove thumbprint r)

/-- Every question of an exchange has its place. -/
theorem asked_of_walk {r : Request} {t : Transcript ClientExchange} {q : ClientExchange.Op}
    {next : ClientExchange.Answer q → Program ClientExchange (Except Failure Response)}
    (h : Walk (program r) t (ask q next)) : Asked r t q := by
  unfold program at h
  by_cases hown : r.headers.contains authorizationField = true
  · rw [if_pos hown] at h
    rcases walk_ask_iff.1 h with ⟨rfl, hq⟩ | ⟨answer, t', rfl, hrest⟩
    · cases hq
      exact .transmit (.own hown)
    · rcases walk_done_iff.1 hrest with ⟨_, hq⟩
      cases hq
  · rw [if_neg hown] at h
    rcases walk_ask_iff.1 h with ⟨rfl, hq⟩ | ⟨found, t', rfl, hfound⟩
    · cases hq
      exact .recall hown
    · rcases found with _ | c
      · rcases walk_ask_iff.1 hfound with ⟨rfl, hq⟩ | ⟨answer, t₂, rfl, hanswer⟩
        · cases hq
          exact .transmit (.first hown)
        · rcases answer with e | refusal
          · rcases walk_done_iff.1 hanswer with ⟨_, hq⟩
            cases hq
          · replace hanswer : Walk (afterAnswer r refusal) t₂ (ask q next) := hanswer
            unfold afterAnswer at hanswer
            by_cases hstatus : refusal.status = unauthorized
            · rw [if_pos hstatus] at hanswer
              rcases walk_ask_iff.1 hanswer with ⟨rfl, hq⟩ | ⟨outcome, t₃, rfl, hretry⟩
              · cases hq
                exact .negotiate hown hstatus
              · rcases outcome with e | _ | c
                · rcases walk_done_iff.1 hretry with ⟨_, hq⟩
                  cases hq
                · rcases walk_done_iff.1 hretry with ⟨_, hq⟩
                  cases hq
                · rcases walk_sendWith_ask hretry with ⟨thumbprint, rfl⟩ | ⟨up, rfl, hb⟩
                  · exact .prove thumbprint hown
                  · exact .transmit (.retry hown hstatus hb)
            · rw [if_neg hstatus] at hanswer
              rcases walk_done_iff.1 hanswer with ⟨_, hq⟩
              cases hq
      · rcases walk_sendWith_ask hfound with ⟨thumbprint, rfl⟩ | ⟨up, rfl, hb⟩
        · exact .prove thumbprint hown
        · exact .transmit (.cached hown hb)

/-! ## What an exchange amounts to -/

/-- The requests that go to the transport with their answers, in order. -/
def sent : Transcript ClientExchange → List (Request × Except TransportError Response)
  | [] => []
  | ⟨.transmit up, answer⟩ :: t => (up, answer) :: sent t
  | ⟨.recall _, _⟩ :: t => sent t
  | ⟨.negotiate _ _, _⟩ :: t => sent t
  | ⟨.prove _ _, _⟩ :: t => sent t

/-- The outcomes of the negotiations, in order. -/
def negotiated : Transcript ClientExchange → List (Except AuthError (Option Credential))
  | [] => []
  | ⟨.negotiate _ _, outcome⟩ :: t => outcome :: negotiated t
  | ⟨.recall _, _⟩ :: t => negotiated t
  | ⟨.transmit _, _⟩ :: t => negotiated t
  | ⟨.prove _ _, _⟩ :: t => negotiated t

@[simp] theorem sent_append (t u : Transcript ClientExchange) :
    sent (t ++ u) = sent t ++ sent u := by
  induction t with
  | nil => rfl
  | cons e t ih =>
      rcases e with ⟨_ | _ | _ | _, answer⟩
      case transmit => exact congrArg (List.cons _) ih
      all_goals exact ih

@[simp] theorem negotiated_append (t u : Transcript ClientExchange) :
    negotiated (t ++ u) = negotiated t ++ negotiated u := by
  induction t with
  | nil => rfl
  | cons e t ih =>
      rcases e with ⟨_ | _ | _ | _, answer⟩
      case negotiate => exact congrArg (List.cons _) ih
      all_goals exact ih

/-- Building a request neither sends nor negotiates. -/
theorem Built.silent {r : Request} {c : Credential} {b : Transcript ClientExchange}
    {u : Except Failure Request} (h : Built r c b u) : sent b = [] ∧ negotiated b = [] := by
  cases h <;> exact ⟨rfl, rfl⟩

/-- The credentials that a transcript has from the cache or from a negotiation. -/
def Offered (r : Request) (t : Transcript ClientExchange) (c : Credential) : Prop :=
  (⟨.recall r, some c⟩ : Entry ClientExchange) ∈ t ∨
    ∃ refusal, (⟨.negotiate r refusal, .ok (some c)⟩ : Entry ClientExchange) ∈ t

/-- The bounds on a complete exchange for `r` that ended with the value `v`. -/
structure Orderly (r : Request) (t : Transcript ClientExchange) (v : Except Failure Response) :
    Prop where
  /-- It is one of the complete exchanges. -/
  sequence : Sequence r t v
  sends : (sent t).length ≤ 2
  negotiations : (negotiated t).length ≤ 1
  /-- Whatever is sent is the request itself, or the request with a credential on offer. -/
  requests : ∀ s ∈ sent t, s.1 = r ∨ ∃ c, Offered r t c ∧ Upgrade r c s.1
  /-- A response is passed on as the transport gave it, and it is the last one. -/
  response : ∀ a, v = .ok a → ((sent t).getLast?.map Prod.snd) = some (.ok a)

namespace Sequence

variable {r : Request} {t : Transcript ClientExchange} {v : Except Failure Response}

theorem sent_length_le (h : Sequence r t v) : (sent t).length ≤ 2 := by
  cases h with
  | own answer _ => exact Nat.le_succ 1
  | unchallenged answer _ _ => exact Nat.le_succ 1
  | unresolved outcome _ _ _ => exact Nat.le_succ 1
  | cached answer _ hb => simp [sent, hb.silent.1]
  | cachedUnbuilt _ hb => simp [sent, hb.silent.1]
  | retried answer _ _ hb => simp [sent, hb.silent.1]
  | retryUnbuilt _ _ hb => simp [sent, hb.silent.1]

theorem negotiated_length_le (h : Sequence r t v) : (negotiated t).length ≤ 1 := by
  cases h with
  | own answer _ => exact Nat.zero_le 1
  | unchallenged answer _ _ => exact Nat.zero_le 1
  | unresolved outcome _ _ _ => exact Nat.le_refl 1
  | cached answer _ hb => simp [negotiated, hb.silent.2]
  | cachedUnbuilt _ hb => simp [negotiated, hb.silent.2]
  | retried answer _ _ hb => simp [negotiated, hb.silent.2]
  | retryUnbuilt _ _ hb => simp [negotiated, hb.silent.2]

theorem sent_upgraded (h : Sequence r t v) :
    ∀ s ∈ sent t, s.1 = r ∨ ∃ c, Offered r t c ∧ Upgrade r c s.1 := by
  intro s hs
  cases h with
  | own answer _ =>
      have hs' : s = (r, answer) := by simpa [sent] using hs
      exact .inl (by rw [hs'])
  | unchallenged answer _ _ =>
      have hs' : s = (r, answer) := by simpa [sent] using hs
      exact .inl (by rw [hs'])
  | @unresolved refusal outcome _ _ _ =>
      have hs' : s = (r, .ok refusal) := by simpa [sent] using hs
      exact .inl (by rw [hs'])
  | @cached c b up answer _ hb =>
      have hs' : s = (up, answer) := by simpa [sent, hb.silent.1] using hs
      refine .inr ⟨c, .inl (.head _), ?_⟩
      rw [hs']
      exact hb.upgrade
  | cachedUnbuilt _ hb => simp [sent, hb.silent.1] at hs
  | @retried refusal c b up answer _ _ hb =>
      have hs' : s = (r, .ok refusal) ∨ s = (up, answer) := by
        simpa [sent, hb.silent.1] using hs
      rcases hs' with hfirst | hsecond
      · exact .inl (by rw [hfirst])
      · refine .inr ⟨c, .inr ⟨refusal, .tail _ (.tail _ (.head _))⟩, ?_⟩
        rw [hsecond]
        exact hb.upgrade
  | @retryUnbuilt refusal c b e _ _ hb =>
      have hs' : s = (r, .ok refusal) := by simpa [sent, hb.silent.1] using hs
      exact .inl (by rw [hs'])

theorem getLast_sent (h : Sequence r t v) {a : Response} (hv : v = .ok a) :
    (sent t).getLast?.map Prod.snd = some (.ok a) := by
  cases h with
  | own answer _ => rw [mapError_eq_ok.1 hv]; rfl
  | unchallenged answer _ _ => rw [mapError_eq_ok.1 hv]; rfl
  | unresolved outcome _ _ _ =>
      cases hv
      rfl
  | cached answer _ hb => simp [sent, hb.silent.1, mapError_eq_ok.1 hv]
  | cachedUnbuilt _ _ => cases hv
  | retried answer _ _ hb => simp [sent, hb.silent.1, mapError_eq_ok.1 hv]
  | retryUnbuilt _ _ _ => cases hv

theorem orderly (h : Sequence r t v) : Orderly r t v where
  sequence := h
  sends := h.sent_length_le
  negotiations := h.negotiated_length_le
  requests := h.sent_upgraded
  response := fun _ => h.getLast_sent

end Sequence

/-- The exchange for a request is orderly, whatever answers its questions. -/
theorem orderly_of_run {J : Interface} {σ : Type} (r : Request)
    (serve : (q : ClientExchange.Op) → Program J (ClientExchange.Answer q))
    (answer : (op : J.Op) → σ → J.Answer op × σ) (s : σ) :
    Orderly r ((program r).transcript (fun q => (serve q).run answer) s)
      (((program r).interpret serve).run answer s).1 := by
  rw [run_interpret]
  exact (sequence_of_walk (walk_transcript _ _ _)).orderly

/-- A client's exchange for a request, against any session, any registry and any world: it is
orderly, and its questions account for everything that the client asks of the world.  In the world a
question `.transmit` is one operation, `World.transmit`, so the requests of the exchange are those that
the client transmits outside its negotiation; what an authenticator transmits belongs to the question
`.negotiate`. -/
theorem send_sequence {J : Interface} {σ : Type} (r : Request) :
    (∀ (serve : (q : ClientExchange.Op) → Program J (ClientExchange.Answer q))
        (answer : (op : J.Op) → σ → J.Answer op × σ) (s : σ),
      Orderly r ((program r).transcript (fun q => (serve q).run answer) s)
        (((program r).interpret serve).run answer s).1) ∧
    (∀ (c : Client) (answer : (op : World.Op) → σ → World.Answer op × σ) (s : σ),
      Served c.inWorld ((program r).transcript (fun q => (c.inWorld q).run answer) s)
          ((c.send r).transcript answer s) ∧
        Orderly r ((program r).transcript (fun q => (c.inWorld q).run answer) s)
          ((c.send r).run answer s).1) := by
  refine ⟨?_, ?_⟩
  · intro serve answer s
    exact orderly_of_run r serve answer s
  · intro c answer s
    exact ⟨served_transcript _ _ _ _, orderly_of_run r c.inWorld answer s⟩

end ClientExchange
end Countersign
