import Countersign.Proofs.Errands

/-!
# Provenance — where the credential of a request comes from

Clients send requests and reset their sessions in any order.  A request that leaves a send with a
credential that its caller did not supply carries what an authenticator of the same session returned
for the same resource.  Conversely, where sends do not overlap, the next send for a URI uses the
credential that was negotiated last for it, as long as it is live and has not been forgotten.

* `Errand.Source` — where a send has its credential from;
* `Errand.Traffic.source` — every credential has such a source;
* `Errand.Follows` — a send for a resource whose latest credential can still be used;
* `Errand.Traffic.finds` — such a send finds it, and uses it up front;
* `Errand.provenance` — both, for every run;
* `Errand.meddled_unrefused` — what becomes of it where an authenticator stores what it likes.
-/

namespace Countersign

open Program ClientExchange

/-! ## Answers of the session -/

namespace Client

variable {c : Client} {r : Request} {u : Transcript World}

/-- A credential that a send has recalled was live at that moment. -/
theorem recalled_of_served {held : Credential} {b : Transcript ClientExchange}
    (h : Served c.inWorld (⟨.recall r, some held⟩ :: b) u) :
    ∃ now u', u = ⟨.recall c.session.number (CredentialCache.key r.uri), (some held, now)⟩ :: u' ∧
      held.isExpiredAt now = false := by
  rcases h.of_cons with ⟨u₁, u₂, rfl, hrecall, hrest⟩
  rcases cached_of_walk_done hrecall with ⟨found, now, u', rfl, hfound⟩
  rcases Credential.liveAt_eq_some.1 hfound.symm with ⟨rfl, hlive⟩
  exact ⟨now, u' ++ u₂, rfl, hlive⟩

/-- A credential that a send has negotiated was returned by the authenticator of its refusal. -/
theorem granted_of_served {refusal : Response} {granted : Credential}
    {b : Transcript ClientExchange} (hbare : ¬ Carries r) (hstatus : refusal.status = unauthorized)
    (h : Served c.inWorld
      (⟨.recall r, none⟩ :: ⟨.transmit r, .ok refusal⟩ :: ⟨.negotiate r refusal, .ok (some granted)⟩ ::
        b) u) :
    ∃ a u₁ run after, u = u₁ ++ (run ++ after) ∧ c.Refused r u₁ refusal a ∧
      Walk (c.answering r refusal a) run (done (.ok granted)) := by
  have hsplit : Served c.inWorld ([⟨.recall r, none⟩, ⟨.transmit r, .ok refusal⟩] ++
      ⟨.negotiate r refusal, .ok (some granted)⟩ :: b) u := h
  -- what was asked up to the refusal, and what the negotiation asked
  rcases hsplit.of_append with ⟨u₁, u₂, rfl, hserved, hrest⟩
  rcases hrest.of_cons with ⟨v, u₃, rfl, hnegotiate, _⟩
  rcases negotiate_of_walk_done hnegotiate with ⟨a, run, hselect, rfl, hrun⟩
  exact ⟨a, u₁, run, _, by rw [List.append_assoc], ⟨hbare, hstatus, hselect, hserved⟩, hrun⟩

/-- Without a credential of the caller's own a send first looks into the cache. -/
theorem act_eq_recall_of_walk {op : Act} {next : op.Answer → Run (Except Failure Response)}
    (hbare : ¬ Carries r) (h : Walk (c.send r) [] (ask (I := World) op next)) :
    op = .recall c.session.number (CredentialCache.key r.uri) := by
  have hsend := walk_nil_iff.1 h
  rcases exists_program_eq hbare with ⟨rest, hprogram, _⟩
  rw [send, hprogram] at hsend
  cases hsend
  rfl

/-- An authenticator, and not the send itself, hands a request to the transport. -/
def FromAuthenticator (c : Client) (r : Request) (u : Transcript World) (up : Request) : Prop :=
  ∃ refusal a u₁ h next, u = u₁ ++ h ∧ c.Refused r u₁ refusal a ∧
    Walk (c.answering r refusal a) h (ask (I := World) (.transmit up) next)

theorem FromAuthenticator.not_carries {up : Request} (h : c.FromAuthenticator r u up)
    (hmodest : ∀ a cs, c.registry.select c.session cs = some a →
      ∀ r names, (a.acquire c.session r names).Only Act.Modest) : ¬ Carries up := by
  rcases h with ⟨refusal, a, u₁, run, next, _, hrefused, hrun⟩
  have hask := ((hmodest a _ hrefused.selected r _).walk hrun).2.1
  exact hask.2 up rfl

theorem Asks.of_transmit {up : Request} (h : c.Asks r u (.transmit up)) :
    (∃ t, BeforeTransmit r t up ∧ Served c.inWorld t u) ∨ c.FromAuthenticator r u up := by
  cases h with
  | transmit hbefore hserved => exact .inl ⟨_, hbefore, hserved⟩
  | work hrefused hwork => exact .inr ⟨_, _, _, _, _, rfl, hrefused, hwork⟩
  | prove hop => rcases hop with hop | ⟨_, hop⟩ <;> cases hop

end Client

namespace Errand

variable {ι : Type} [DecidableEq ι] {registry : Registry} {errands : ι → Errand} {s : Store}

/-! ## Sources of credentials -/

/-- Where a send `i` has a credential for a resource from.  Either an authenticator has just returned it.
Or it was taken from the cache and live at that moment `f`; then an authenticator had returned it to a
send of the same session for the same resource, that stored it at a moment `w`, and no reset of the
session has emptied the cache in between. -/
inductive Source (registry : Registry) (errands : ι → Errand) (l : List (Event ι)) (i : ι)
    (session : Session) (uri : Url) (c : Credential) : Prop where
  | negotiated : Granted registry errands l i session uri c →
      Source registry errands l i session uri c
  | cached {p q k : List (Event ι)} {w f : Event ι} :
      l = p ++ w :: (q ++ f :: k) → f.who = i →
      (⟨f.act, f.answer⟩ : Entry World) =
        ⟨.recall session.number (CredentialCache.key uri), (some c, f.time)⟩ →
      c.isExpiredAt f.time = false →
      w.act = .retain session.number (CredentialCache.key uri) c →
      Granted registry errands p w.who session uri c → (∀ x ∈ q, x.act ≠ .wipe session.number) →
      Source registry errands l i session uri c

namespace Traffic

variable {l₁ l₂ : List (Event ι)} {e : Event ι} {session : Session} {r up : Request}

/-- What a send has recalled was stored for its session, and not forgotten since. -/
theorem source_of_recall {l : List (Event ι)} {i : ι} (h : Traffic registry errands s l)
    (hsend : errands i = .send session r) {c : Credential} {now : Instant}
    {u : Transcript World} {uri : Url}
    (hpart : partOf i l =
      ⟨.recall session.number (CredentialCache.key uri), (some c, now)⟩ :: u)
    (hlive : c.isExpiredAt now = false) : Source registry errands l i session uri c := by
  rcases partOf_eq_cons hpart with ⟨k₁, f, k₂, rfl, _, hwho, hf, _⟩
  -- the look `f` shows what the cache held, and that was stored by a step `w`
  have hfound := find?_of_admits h.admits hf.symm
  obtain ⟨hheld, rfl⟩ : some c =
      ((storeAfter s k₁).vault session.number).cache.find? (CredentialCache.key uri) ∧
        now = f.time := by
    simpa using hfound
  have hsession : (errands i).session = session := by
    rw [hsend]
    rfl
  have hfresh := h.fresh i
  rw [hsession] at hfresh
  rcases exists_retain_of_find? hfresh hheld.symm with ⟨p, w, q, rfl, hact, hq⟩
  have hstored : Traffic registry errands s (p ++ w :: (q ++ f :: k₂)) := by
    simpa using h
  rcases hstored.granted hact with ⟨session', uri', hnumber, hkey, _, hsession', hgranted⟩
  -- the send that stored it belongs to the same session, as their numbers agree
  have hsame : session' = session := by
    have hnumbered := h.numbered w.who i
    rw [hsession, hsession'] at hnumbered
    exact hnumbered hnumber
  rw [hsame] at hgranted
  replace hgranted := hgranted.alike (Url.alike_iff.2 hkey)
  -- emptying the cache would have touched it
  have hkept : ∀ x ∈ q, x.act ≠ .wipe session.number := by
    intro x hx hwipe
    have htouch := hq x hx
    rw [hwipe] at htouch
    simp [Act.touches] at htouch
  have hl : p ++ w :: q ++ f :: k₂ = p ++ w :: (q ++ f :: k₂) := by
    simp
  exact .cached hl hwho hf.symm hlive hact hgranted hkept

/-- A request that a send hands to the transport with a credential has that from its caller, or is
the upgrade of the caller's request with a credential from a source.  What authenticators send is
their own. -/
theorem source (h : Traffic registry errands s (l₁ ++ e :: l₂))
    (hsend : errands e.who = .send session r) (hact : e.act = .transmit up) (hcarries : Carries up) :
    (Carries r ∧ up = r) ∨
      Client.FromAuthenticator ⟨session, registry⟩ r (partOf e.who l₁) up ∨
      ∃ c, Upgrade r c up ∧ Source registry errands l₁ e.who session up.uri c := by
  rcases h.send_asks (by simp [hact]) (by simp [hact]) with ⟨session', r', hsend', hasks⟩
  rw [hsend] at hsend'
  cases hsend'
  rw [hact] at hasks
  rcases hasks.of_transmit with ⟨t, hbefore, hserved⟩ | hauthenticator
  · cases hbefore with
    | own hown => exact .inl ⟨hown, rfl⟩
    | first hbare => exact absurd hcarries hbare
    | cached hbare hbuilt =>
        have hupgrade := hbuilt.upgrade
        rcases Client.recalled_of_served hserved with ⟨now, u', hpart, hlive⟩
        refine .inr (.inr ⟨_, hupgrade, ?_⟩)
        rw [hupgrade.uri]
        exact h.of_append.source_of_recall hsend hpart hlive
    | retry hbare hstatus hbuilt =>
        have hupgrade := hbuilt.upgrade
        rcases Client.granted_of_served hbare hstatus hserved with
          ⟨a, u, run, after, hpart, hrefused, hrun⟩
        refine .inr (.inr ⟨_, hupgrade, ?_⟩)
        rw [hupgrade.uri]
        exact .negotiated (granted_of_refused hsend hrefused hrun hpart)
  · exact .inr (.inl hauthenticator)

/-- With the authenticators of the library no other request carries a credential. -/
theorem source_of_standard {settings : NegotiationSettings} {tickets : TicketProvider}
    (hgather : ∀ h ∈ tickets.handlers, h.gather.Only Act.Modest)
    (h : Traffic (Registry.standard settings tickets) errands s (l₁ ++ e :: l₂))
    (hsend : errands e.who = .send session r) (hact : e.act = .transmit up) (hcarries : Carries up) :
    (Carries r ∧ up = r) ∨
      ∃ c, Upgrade r c up ∧
        Source (Registry.standard settings tickets) errands l₁ e.who session up.uri c := by
  rcases h.source hsend hact hcarries with hown | hauthenticator | hsource
  · exact .inl hown
  · have hmodest := hauthenticator.not_carries fun a cs hselect =>
      Registry.standard_only hgather hselect session
    exact absurd hcarries hmodest
  · exact .inr hsource

end Traffic

/-! ## Sends one after the other -/

/-- Sends do not overlap: of two of them one has made its steps before the other begins. -/
def Apart (errands : ι → Errand) (l : List (Event ι)) : Prop :=
  ∀ i j, i ≠ j → (errands i).isSend = true → (errands j).isSend = true →
    l.Pairwise (fun x y => ¬ (x.who = j ∧ y.who = i)) ∨
      l.Pairwise (fun x y => ¬ (x.who = i ∧ y.who = j))

/-- The clock never goes back. -/
def Ordered (l : List (Event ι)) : Prop := l.Pairwise fun x y => x.time.le y.time = true

namespace Traffic

variable {p q k : List (Event ι)} {w e : Event ι} {id : SessionId} {key : String} {c : Credential}

/-- Whoever drops a credential has found it expired.  Where sends do not overlap it has done so after
the credential was stored, so a live one is not dropped. -/
theorem not_discard (h : Traffic registry errands s (p ++ w :: (q ++ e :: k)))
    (hapart : Apart errands (p ++ w :: (q ++ e :: k)))
    (hkeeps : ((storeAfter s p).vault id).cache.keeps = true) (hact : w.act = .retain id key c)
    (hq : ∀ x ∈ q, x.act.touches id key = false) (hlive : ∀ x ∈ q, c.isExpiredAt x.time = false) :
    e.act ≠ .discard id key := by
  intro hdrop
  have hdropped : Traffic registry errands s ((p ++ w :: q) ++ e :: k) := by
    simpa using h
  rcases hdropped.discarded hdrop with ⟨hesend, held, now, hpart, hexpired⟩
  rcases h.granted hact with ⟨_, _, _, _, hwsend, _, _⟩
  -- a send that drops a credential has stored none
  have hne : e.who ≠ w.who := by
    intro hwho
    rw [partOf_append, partOf_cons_eq hwho.symm] at hpart
    have hw : (⟨w.act, w.answer⟩ : Entry World) ∈
        [(⟨.recall id key, (some held, now)⟩ : Entry World)] := by
      rw [← hpart]
      simp
    have hrecall : w.act = .recall id key := congrArg Sigma.fst (List.mem_singleton.1 hw)
    rw [hact] at hrecall
    cases hrecall
  rw [partOf_append, partOf_cons_ne (Ne.symm hne)] at hpart
  have hlook : (⟨.recall id key, (some held, now)⟩ : Entry World) ∈
      partOf e.who p ++ partOf e.who q := by
    rw [hpart]
    simp
  rcases List.mem_append.1 hlook with hearly | hlate
  · -- the dropping send had begun before the credential was stored, and is not over
    rcases mem_partOf hearly with ⟨l₁, f, l₂, rfl, hwho, _⟩
    rcases hapart w.who e.who (Ne.symm hne) hwsend hesend with hpair | hpair
    · have hfw := List.pairwise_append.1 hpair
      exact hfw.2.2 f (by simp) w (.head _) ⟨hwho, rfl⟩
    · have hwe := (List.pairwise_cons.1 (List.pairwise_append.1 hpair).2.1).1
      exact hwe e (by simp) ⟨rfl, rfl⟩
  · -- or it looked after that, and then it found the stored credential, which is live
    rcases mem_partOf hlate with ⟨q₁, f, q₂, rfl, _, hf⟩
    have hlooked : Traffic registry errands s ((p ++ w :: q₁) ++ f :: (q₂ ++ e :: k)) := by
      simpa using h
    have hheld := find?_of_retain hkeeps hact fun x hx => hq x (List.mem_append_left _ hx)
    have hfound := find?_of_admits hlooked.admits hf.symm
    rw [hheld] at hfound
    cases hfound
    rw [hlive f (by simp)] at hexpired
    cases hexpired

/-- Where sends do not overlap, what was stored last is left alone as long as it is live and no reset
of its session completes. -/
theorem untouched (h : Traffic registry errands s (p ++ w :: (q ++ e :: k)))
    (hapart : Apart errands (p ++ w :: (q ++ e :: k)))
    (hkeeps : ((storeAfter s p).vault id).cache.keeps = true) (hact : w.act = .retain id key c)
    (hlatest : ∀ x ∈ q, ∀ c', x.act ≠ .retain id key c') (hkept : ∀ x ∈ q, x.act ≠ .wipe id)
    (hlive : ∀ x ∈ q, c.isExpiredAt x.time = false) : ∀ x ∈ q, x.act.touches id key = false := by
  -- step by step: what has been left alone so far is not dropped by the next step
  suffices hall : ∀ q₁ q₂, q = q₁ ++ q₂ → ∀ x ∈ q₁, x.act.touches id key = false from
    hall q [] (by simp)
  intro q₁
  induction q₁ using List.reverseRecOn with
  | nil => simp
  | append_singleton q₁ d ih =>
      intro q₂ hq x hx
      subst hq
      have hbefore := ih (d :: q₂) (by simp)
      rcases List.mem_append.1 hx with hx | hx
      · exact hbefore x hx
      · cases List.mem_singleton.1 hx
        have hsplit : p ++ w :: (q₁ ++ [d] ++ q₂ ++ e :: k) =
            p ++ w :: (q₁ ++ d :: (q₂ ++ e :: k)) := by
          simp
        rw [hsplit] at h hapart
        have hstep : Traffic registry errands s ((p ++ w :: q₁) ++ d :: (q₂ ++ e :: k)) := by
          simpa using h
        have hd : d ∈ q₁ ++ [d] ++ q₂ := by
          simp
        rw [← Bool.not_eq_true, Act.touches_iff]
        -- setting up, dropping, storing and emptying are all that touches a key
        rintro (⟨settings, held, hop⟩ | hop | ⟨c', hop⟩ | hop)
        · exact hstep.not_establish settings held hop
        · refine h.not_discard hapart hkeeps hact hbefore ?_ hop
          intro y hy
          exact hlive y (by simp [hy])
        · exact hlatest d hd c' hop
        · exact hkept d hd hop

end Traffic

/-! ## Credentials used up front -/

/-- An exchange that uses a credential up front: it has recalled the credential, it negotiates nothing,
and it sends at most one request, which is the upgraded one.  When it ends it has sent that, or
building it has failed. -/
structure UpFront (r : Request) (c : Credential) (t : Transcript ClientExchange)
    (rest : Program ClientExchange (Except Failure Response)) : Prop where
  recalled : t.head? = some ⟨.recall r, some c⟩
  negotiations : negotiated t = []
  sends : (sent t).length ≤ 1
  upgraded : ∀ x ∈ sent t, Upgrade r c x.1
  ends : ∀ v, rest = done v →
    (sent t).length = 1 ∨ ∃ failure, v = .error failure ∧ Built r c t.tail (.error failure)

theorem silent_of_prove {r : Request} {t : Transcript ClientExchange}
    (h : ∀ e ∈ t, ∃ thumbprint, e.1 = Question.prove thumbprint r) :
    sent t = [] ∧ negotiated t = [] := by
  induction t with
  | nil => exact ⟨rfl, rfl⟩
  | cons e t ih =>
      rcases e with ⟨q, answer⟩
      rcases h ⟨q, answer⟩ (.head _) with ⟨thumbprint, hq⟩
      cases hq
      exact ih fun e he => h e (.tail _ he)

/-- Sending with a credential negotiates nothing and sends the upgraded request at most once. -/
theorem walk_sendWith {r : Request} {c : Credential} {t : Transcript ClientExchange}
    {rest : Program ClientExchange (Except Failure Response)} (h : Walk (sendWith r c) t rest) :
    negotiated t = [] ∧ (sent t).length ≤ 1 ∧ ∀ x ∈ sent t, Upgrade r c x.1 := by
  rcases h.of_bind with ⟨building, hbuild, _⟩ | ⟨u, b, t', rfl, hbuild, hrest⟩
  · have hsilent := silent_of_prove ((authorize_only r c).walk hbuild).1
    simp [hsilent.1, hsilent.2]
  · have hbuilt := built_of_walk hbuild
    have hsilent := hbuilt.silent
    cases u with
    | error e =>
        rcases walk_done_iff.1 hrest with ⟨rfl, _⟩
        simp [hsilent.1, hsilent.2]
    | ok up =>
        rcases walk_ask_iff.1 hrest with ⟨rfl, _⟩ | ⟨answer, t'', rfl, hend⟩
        · simp [hsilent.1, hsilent.2]
        · rcases walk_done_iff.1 hend with ⟨rfl, _⟩
          simp [hsilent.1, hsilent.2, sent, negotiated, hbuilt.upgrade]

/-- An exchange whose session recalls a live credential uses it up front. -/
theorem upFront_of_walk {client : Client} {r : Request} {c : Credential} {now : Instant}
    {t : Transcript ClientExchange} {u : Transcript World}
    {rest : Program ClientExchange (Except Failure Response)} (hbare : ¬ Carries r)
    (hwalk : Walk (ClientExchange.program r) t rest)
    (hserved : Served client.inWorld t
      (⟨.recall client.session.number (CredentialCache.key r.uri), (some c, now)⟩ :: u))
    (hlive : c.isExpiredAt now = false) : UpFront r c t rest := by
  rcases exists_program_eq hbare with ⟨next, hprogram, hnext⟩
  rw [hprogram] at hwalk
  rcases walk_ask_iff.1 hwalk with ⟨rfl, _⟩ | ⟨found, t', rfl, hfound⟩
  · cases hserved
  · -- the session passes on what it has found, as that is live
    have hrecalled : found = some c := by
      rcases hserved.of_cons with ⟨u₁, u₂, hu, hrecall, _⟩
      rcases cached_of_walk_done hrecall with ⟨held, now', u₃, rfl, hheld⟩
      cases hu
      rw [hheld]
      exact Credential.liveAt_eq_some.2 ⟨rfl, hlive⟩
    subst hrecalled
    rw [hnext] at hfound
    rcases walk_sendWith hfound with ⟨hnegotiations, hsends, hupgraded⟩
    refine ⟨rfl, hnegotiations, hsends, hupgraded, ?_⟩
    rintro v rfl
    rcases walk_sendWith_done hfound with ⟨failure, hbuilt, rfl⟩ | ⟨b, up, answer, rfl, hbuilt, _⟩
    · exact .inr ⟨failure, rfl, hbuilt⟩
    · refine .inl ?_
      simp [sent, hbuilt.silent.1]

/-- The send of `e` begins with this step, behind the steps `p`, `w` and `q`.  It is for a request
without credential, and `w` stored the credential that was negotiated last for its session and for the
resource that it asks for.  No reset of the session has emptied the cache since, and the credential is
still live. -/
structure Follows (errands : ι → Errand) (s : Store) (p : List (Event ι)) (w : Event ι)
    (q : List (Event ι)) (e : Event ι) (session : Session) (r : Request) (c : Credential) : Prop where
  send : errands e.who = .send session r
  bare : ¬ Carries r
  begins : partOf e.who (p ++ w :: q) = []
  stored : ∃ uri, r.uri.Alike uri ∧ w.act = .retain session.number (CredentialCache.key uri) c
  latest : ∀ x ∈ q, ∀ uri c', r.uri.Alike uri →
    x.act ≠ .retain session.number (CredentialCache.key uri) c'
  kept : ∀ x ∈ q, x.act ≠ .wipe session.number
  live : c.isExpiredAt e.time = false
  keeps : (s.vault session.number).cache.keeps = true

namespace Traffic

variable {p q k : List (Event ι)} {w e : Event ι} {session : Session} {r : Request} {c : Credential}

/-- The first step of a send without credential looks into the cache. -/
theorem act_eq_recall {l₁ l₂ : List (Event ι)} (h : Traffic registry errands s (l₁ ++ e :: l₂))
    (hsend : errands e.who = .send session r) (hbare : ¬ Carries r)
    (hbegins : partOf e.who l₁ = []) :
    e.act = .recall session.number (CredentialCache.key r.uri) := by
  rcases h.runs with ⟨d, hruns⟩
  rcases hruns.event with ⟨⟨next, hwalk⟩, _⟩
  dsimp only at next hwalk
  rw [hbegins] at hwalk
  revert next
  rw [hsend]
  exact fun next => Client.act_eq_recall_of_walk hbare

/-- A send that follows a negotiation for its resource finds the negotiated credential. -/
theorem finds (h : Traffic registry errands s (p ++ w :: (q ++ e :: k)))
    (hf : Follows errands s p w q e session r c)
    (hapart : Apart errands (p ++ w :: (q ++ e :: k)))
    (hordered : Ordered (p ++ w :: (q ++ e :: k))) :
    (⟨e.act, e.answer⟩ : Entry World) =
      ⟨.recall session.number (CredentialCache.key r.uri), (some c, e.time)⟩ := by
  have hstep : Traffic registry errands s ((p ++ w :: q) ++ e :: k) := by
    simpa using h
  -- nothing sets the session up anew, so its cache keeps what is stored
  have hkeeps : ((storeAfter s p).vault session.number).cache.keeps = true := by
    rw [keeps_storeAfter, hf.keeps]
    intro x hx settings held
    rcases List.append_of_mem hx with ⟨l₁, l₂, rfl⟩
    have hearly : Traffic registry errands s (l₁ ++ x :: (l₂ ++ w :: (q ++ e :: k))) := by
      simpa using h
    exact hearly.not_establish settings held
  -- what is live when the send begins was live all along
  have hlive : ∀ x ∈ q, c.isExpiredAt x.time = false := by
    intro x hx
    have hle : x.time.le e.time = true := by
      have hlate := (List.pairwise_cons.1 (List.pairwise_append.1 hordered).2.1).2
      exact (List.pairwise_append.1 hlate).2.2 x hx e (.head _)
    rw [← Bool.not_eq_true]
    intro hexpired
    have hlater := Credential.isExpiredAt_mono hle hexpired
    rw [hf.live] at hlater
    cases hlater
  rcases hf.stored with ⟨uri, halike, hstored⟩
  rw [← Url.alike_iff.1 halike] at hstored
  have huntouched := h.untouched hapart hkeeps hstored
    (fun x hx c' => hf.latest x hx r.uri c' (.refl r.uri)) hf.kept hlive
  have hheld := find?_of_retain hkeeps hstored huntouched
  have hact := hstep.act_eq_recall hf.send hf.bare hf.begins
  rw [recall_of_admits hact hstep.admits, hheld]

end Traffic

/-! ## Both directions -/

/-- What is known of the credentials in a run of errands. -/
structure Provenance (registry : Registry) (errands : ι → Errand) (s : Store)
    (l : List (Event ι)) : Prop where
  /-- A request that a send hands to the transport with a credential is its caller's, or upgraded with
  a credential from a source; or it belongs to the authenticator at work. -/
  source : ∀ l₁ e l₂ session r up, l = l₁ ++ e :: l₂ → errands e.who = .send session r →
    e.act = .transmit up → Carries up →
    (Carries r ∧ up = r) ∨
      Client.FromAuthenticator ⟨session, registry⟩ r (partOf e.who l₁) up ∨
      ∃ c, Upgrade r c up ∧ Source registry errands l₁ e.who session up.uri c
  /-- The cache of a session is emptied by the steps in which its resets complete. -/
  resets : ∀ l₁ e l₂ id, l = l₁ ++ e :: l₂ →
    (e.act = .wipe id ↔ ∃ session, errands e.who = .reset session ∧ session.number = id ∧
      Walk session.reset (partOf e.who (l₁ ++ [e])) (done ()))
  /-- Where sends do not overlap and the clock never goes back, a send that follows a negotiation for
  its resource begins with finding the negotiated credential, and uses it up front. -/
  upFront : ∀ p w q e k session r c, l = p ++ w :: (q ++ e :: k) →
    Follows errands s p w q e session r c → Apart errands l → Ordered l →
    (⟨e.act, e.answer⟩ : Entry World) =
        ⟨.recall session.number (CredentialCache.key r.uri), (some c, e.time)⟩ ∧
      ∀ t rest, Walk (ClientExchange.program r) t rest →
        Served (Client.inWorld ⟨session, registry⟩) t (partOf e.who (e :: k)) → UpFront r c t rest

/-- In every run of sends and resets, in any order, credentials stay with the session and the resource
that they were negotiated for; and they are used again. -/
theorem provenance {l : List (Event ι)} (h : Traffic registry errands s l) :
    Provenance registry errands s l := by
  refine ⟨?_, ?_, ?_⟩
  · intro l₁ e l₂ session r up hl hsend hact hcarries
    subst hl
    exact h.source hsend hact hcarries
  · intro l₁ e l₂ id hl
    subst hl
    exact h.wipe_iff
  · intro p w q e k session r c hl hf hapart hordered
    subst hl
    have hfinds := h.finds hf hapart hordered
    refine ⟨hfinds, ?_⟩
    intro t rest hwalk hserved
    rw [partOf_cons_self, hfinds] at hserved
    exact upFront_of_walk hf.bare hwalk hserved hf.live

/-! ### A page that is visited twice -/

namespace Visits

/-- A page, and a part of it. -/
def page : Url := { scheme := "urn", path := "page" }

def part : Url := { page with fragment := some "part" }

/-- A session that holds an identity token, presented also without a challenge. -/
def reader : Session := { number := 0, name := "reader", identity := .openId {} false }

def library : Registry := .standard { fallback := some bearer } {}

def token : Credential := { scheme := bearer, issuer := page, token := "t", expiration := ⟨60, 0⟩ }

def upgraded (uri : Url) : Request := (Request.get uri).setHeader authorizationField token.authorization

def refusal : Response := { status := 401, uri := page }

def answer (uri : Url) : Response := { status := 200, uri }

/-- First the page is visited, then the part. -/
def visit (again : Bool) : Errand := .send reader (.get (bif again then part else page))

def store : Store := { vault := fun _ => { slot := { credential := some token } } }

def now : Instant := ⟨0, 0⟩

/-- The first visit up to the moment at which its credential is stored. -/
def early : List (Event Bool) :=
  [⟨false, .recall 0 (CredentialCache.key page), (none, now), now⟩,
    ⟨false, .transmit (.get page), .ok refusal, now⟩,
    ⟨false, .look 0, ({ credential := some token }, now), now⟩]

def stored : Event Bool := ⟨false, .retain 0 (CredentialCache.key page) token, (), now⟩

def retried : Event Bool := ⟨false, .transmit (upgraded page), .ok (answer page), now⟩

/-- The first step of the second visit. -/
def found : Event Bool := ⟨true, .recall 0 (CredentialCache.key page), (some token, now), now⟩

def last : Event Bool := ⟨true, .transmit (upgraded part), .ok (answer part), now⟩

def log : List (Event Bool) := early ++ stored :: ([retried] ++ found :: [last])

theorem provider_bearer : library.provider? bearer = some IdToken.provider := by
  have hidToken : IdToken.provider.schemes.toList = [bearer, dpop] := by decide
  have htickets : (TicketProvider.provider {}).schemes.toList = [uma] := by decide
  have hnames : Text.lower bearer ≠ Text.lower dpop ∧ Text.lower bearer ≠ Text.lower uma := by decide
  have hallowed : ∀ x ∈ [bearer, dpop, uma],
      Text.sameLetters "Basic" x = false ∧ Text.sameLetters "Digest" x = false := by decide
  simp only [List.forall_mem_cons] at hallowed
  simp [library, Registry.standard, Registry.Draft.build, Registry.Draft.ofSettings,
    Registry.Draft.withProvider, Registry.provider?, Registry.register, Registry.Draft.prohibits,
    hidToken, htickets, hallowed, Table.find?_insert, hnames]

/-- The refusal has no challenges, so the fallback answers it. -/
theorem select_refusal :
    library.select reader refusal.challenges = some (IdToken.authenticator false) := by
  have hchallenges : refusal.challenges = [] := Challenge.parseAll_nil
  have hsupports : reader.supports bearer = true := by decide
  have hscheme : (Challenge.mk bearer .empty).isScheme dpop = false ∧
      (Challenge.mk bearer .empty).isScheme bearer = true := by decide
  have hfallback : library.fallback = some bearer := rfl
  simp [hchallenges, Registry.select, Registry.candidates, Registry.fallback?, hfallback,
    Registry.answer?, provider_bearer, hsupports, IdToken.provider, hscheme, Except.toOption]

theorem walk_negotiate :
    Walk (library.negotiate reader (.get page) refusal.challenges)
      [⟨.look 0, ({ credential := some token }, now)⟩,
        ⟨.retain 0 (CredentialCache.key page) token, ()⟩]
      (done (.ok (some token))) := by
  rw [Registry.negotiate_eq, select_refusal]
  exact .answered (.answered (.here _))

/-- The exchange of the first visit, which negotiates. -/
def exchange : Transcript ClientExchange :=
  [⟨.recall (.get page), none⟩, ⟨.transmit (.get page), .ok refusal⟩,
    ⟨.negotiate (.get page) refusal, .ok (some token)⟩,
    ⟨.transmit (upgraded page), .ok (answer page)⟩]

theorem walk_transmit (r : Request) (a : Except TransportError Response) :
    Walk (perform (I := World) (.transmit r)) [⟨.transmit r, a⟩] (done a) :=
  walk_perform (I := World) (.transmit r) a

theorem served_exchange : Served (Client.inWorld ⟨reader, library⟩) exchange (partOf false log) := by
  have hcached : Walk (reader.cached (.get page))
      [⟨.recall 0 (CredentialCache.key page), (none, now)⟩] (done none) := .answered (.here _)
  exact .cons hcached (.cons (walk_transmit _ _) (.cons walk_negotiate
    (.cons (walk_transmit _ _) .none rfl) rfl) rfl) rfl

theorem walk_found : Walk (reader.cached (.get part))
    [⟨.recall 0 (CredentialCache.key page), (some token, now)⟩] (done (some token)) :=
  .answered (.here _)

theorem traffic_visits : Traffic library visit store log where
  runs := by
    refine exists_runs ?_ ?_
    · exact ⟨rfl, rfl, rfl, trivial, rfl, rfl, rfl, trivial, rfl, trivial, rfl, rfl, rfl, trivial, trivial⟩
    · intro again
      cases again with
      | false =>
          have hexchange : Walk (ClientExchange.program (.get page)) exchange
              (done (.ok (answer page))) := .answered (.answered (.answered (.answered (.here _))))
          exact ⟨_, hexchange.interpret served_exchange⟩
      | true => exact ⟨_, .answered (.answered (.here _))⟩
  fresh := fun _ => rfl
  numbered := fun _ _ _ => rfl
  sparing := Registry.standard_sparing (by simp)

theorem follows_visits : Follows visit store early stored [retried] found reader (.get part) token where
  send := rfl
  bare := not_carries_get part
  begins := rfl
  stored := ⟨page, Url.alike_iff.2 (by decide), rfl⟩
  latest := by
    intro x hx uri c' _ hact
    cases List.mem_singleton.1 hx
    cases hact
  kept := by
    intro x hx hact
    cases List.mem_singleton.1 hx
    cases hact
  live := rfl
  keeps := rfl

theorem apart_visits : Apart visit log := by
  intro i j hne _ _
  rcases i with _ | _ <;> rcases j with _ | _
  · exact absurd rfl hne
  · exact .inl (by decide)
  · exact .inr (by decide)
  · exact absurd rfl hne

theorem ordered_visits : Ordered log := by
  unfold Ordered
  decide

end Visits

open Visits in
/-- The second visit uses the credential of the first. -/
theorem provenance_visits :
    Traffic library visit store log ∧ Provenance library visit store log ∧
      UpFront (.get part) token
        [⟨.recall (.get part), some token⟩, ⟨.transmit (upgraded part), .ok (answer part)⟩]
        (done (.ok (answer part))) := by
  have hprovenance := provenance traffic_visits
  have hupFront := (hprovenance.upFront early stored [retried] found [last] reader (.get part) token
    rfl follows_visits apart_visits ordered_visits).2
  refine ⟨traffic_visits, hprovenance, hupFront _ _ ?_ ?_⟩
  · exact .answered (.answered (.here _))
  · exact .cons walk_found (.cons (walk_transmit _ _) .none rfl) rfl

open Meddling in
/-- The page is refused, and a request for the annex never was.  But the authenticator that answers for
the page makes the session authenticate one, and so the next send for the annex presents a credential. -/
theorem meddled_unrefused :
    ¬ page.Alike annex ∧ (({} : Store).vault 0).cache.entries = [] ∧
      ((client annex).send (.get page)).transmitted outside ({}, ()) = [.get page] ∧
      ((client annex).send (.get annex)).transmitted outside (behind annex, ()) =
        [(Request.get annex).setHeader authorizationField token.authorization] := by
  refine ⟨?_, rfl, by decide +kernel, by decide +kernel⟩
  rw [Url.alike_iff]
  decide

end Errand
end Countersign
