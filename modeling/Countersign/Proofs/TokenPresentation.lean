import Countersign.Proofs.BoundTokens
import Countersign.Proofs.FailedUpgrade

/-!
# Token presentation — bound tokens leave a client with a proof, or not at all

Clients send requests and reset their sessions, side by side and in any order.  Some of the credentials
that they send were returned by the authenticators for identity tokens, in the same send or in an earlier
one of the session.  This file follows these from the slot, where they are faithful to their tokens, to
the requests that carry them.

* `Begun` — the stores in which sessions have been begun;
* `Errand.GrantedBy` — an authenticator returned a credential to a send;
* `Errand.Origin` — where an exchange has a credential from, and from which authenticator;
* `Errand.TokenPresentation` — what becomes of bound tokens;
* `Errand.token_presentation` — this, in every run;
* `Errand.torn_unproven` — tokens that fall outside of it, and an authenticator that does.
-/

namespace Countersign

open Program ClientExchange

/-! ## Beginning sessions -/

/-- The stores in which sessions have been begun, one after the other. -/
inductive Begun : Store → Prop where
  | none : Begun {}
  | anonymous {s : Store} {number : SessionId} {settings : CacheSettings} {u : Transcript World}
      {session : Session} : Begun s → Walk (Session.anonymous number settings) u (done session) →
      Begun (storeAfter s (steps u))
  | ofToken {s : Store} {number : SessionId} {settings : CacheSettings}
      {verification : VerificationSettings} {token : String} {u : Transcript World}
      {outcome : Except AuthError Session} : Begun s →
      Walk (Session.ofToken number settings verification token) u (done outcome) →
      Begun (storeAfter s (steps u))
  | ofSource {s : Store} {number : SessionId} {settings : CacheSettings}
      {verification : VerificationSettings} {u : Transcript World} {session : Session} : Begun s →
      Walk (Session.ofSource number settings verification) u (done session) →
      Begun (storeAfter s (steps u))

theorem storeAfter_steps_faithful {s : Store} {α : Type} {p q : Run α} {u : Transcript World}
    (h : s.Faithful) (hp : p.Only Act.Faithful) (hwalk : Walk p u q) :
    (storeAfter s (steps u)).Faithful :=
  storeAfter_faithful h (forall_steps (hp.walk hwalk).1)

/-- Sessions begin with faithful credentials. -/
theorem Begun.faithful {s : Store} (h : Begun s) : s.Faithful := by
  induction h with
  | none =>
      intro id c hheld
      cases hheld
  | anonymous _ hwalk ih => exact storeAfter_steps_faithful ih (Session.anonymous_faithful _ _) hwalk
  | ofToken _ hwalk ih => exact storeAfter_steps_faithful ih (Session.ofToken_faithful _ _ _ _) hwalk
  | ofSource _ hwalk ih => exact storeAfter_steps_faithful ih (Session.ofSource_faithful _ _ _) hwalk

/-! ## Credentials on offer -/

namespace ClientExchange

/-- A credential is on offer because it has been recalled, or because it has been negotiated from the
refusal of the request. -/
theorem offered_of_walk {r : Request} {c : Credential} {t : Transcript ClientExchange}
    {q : Program ClientExchange (Except Failure Response)} (hwalk : Walk (program r) t q)
    (hoffered : Offered r t c) :
    (∃ b, t = ⟨.recall r, some c⟩ :: b) ∨
      ∃ refusal b, ¬ Carries r ∧ refusal.status = unauthorized ∧
        t = refusedRecord r refusal ++ ⟨.negotiate r refusal, .ok (some c)⟩ :: b := by
  -- either question has one place in an exchange
  rcases hoffered with hmem | ⟨refusal, hmem⟩
  · rcases List.append_of_mem hmem with ⟨t₁, b, rfl⟩
    rcases hwalk.of_append with ⟨m, hm, hrest⟩
    cases hrest with
    | answered _ =>
        have hasked := asked_of_walk hm
        cases hasked
        exact .inl ⟨b, rfl⟩
  · rcases List.append_of_mem hmem with ⟨t₁, b, rfl⟩
    rcases hwalk.of_append with ⟨m, hm, hrest⟩
    cases hrest with
    | answered _ =>
        have hasked := asked_of_walk hm
        cases hasked with
        | negotiate hbare hstatus => exact .inr ⟨refusal, b, hbare, hstatus, rfl⟩

/-- An exchange that negotiates a credential for whose key the session has no proof. -/
theorem walk_unknown {r up : Request} {c : Credential} {k : String} {refusal : Response}
    (hbare : ¬ Carries r) (hstatus : refusal.status = unauthorized)
    (hset : setField r authorizationField c.authorization = .ok up) (hdpop : c.isDpop = true)
    (hbound : c.thumbprint = some k) :
    Walk (ClientExchange.program r)
      [⟨.recall r, none⟩, ⟨.transmit r, .ok refusal⟩, ⟨.negotiate r refusal, .ok (some c)⟩,
        ⟨.prove k r, .ok none⟩] (done (.error (.proof (.unknownThumbprint k)))) := by
  have hbuild : Walk (authorize r c) [⟨.prove k r, .ok none⟩]
      (done (.error (.proof (.unknownThumbprint k)))) := by
    simp only [authorize, hset, hdpop, if_true, hbound]
    exact .answered (.here _)
  have hafter : Walk (afterAnswer r refusal) [⟨.negotiate r refusal, .ok (some c)⟩, ⟨.prove k r, .ok none⟩]
      (done (.error (.proof (.unknownThumbprint k)))) := by
    rw [afterAnswer, if_pos hstatus]
    exact .answered (hbuild.bind _)
  rw [ClientExchange.program, if_neg (show ¬ r.headers.contains authorizationField = true from hbare)]
  exact .answered (.answered hafter)

end ClientExchange

/-- A send hands a request to the transport in its exchange, or its authenticator does so. -/
theorem Client.transmit_of_walk {c : Client} {r up : Request} {u : Transcript World}
    {next : (Act.transmit up).Answer → Run (Except Failure Response)}
    (h : Walk (c.send r) u (ask (I := World) (.transmit up) next)) :
    (∃ t after, Walk (ClientExchange.program r) t (ask (I := ClientExchange) (.transmit up) after) ∧
        Served c.inWorld t u) ∨ c.FromAuthenticator r u up := by
  rcases h.of_interpret_ask with ⟨t, u₁, u₂, q, after, rest, rfl, hwalk, hserved, hq⟩
  rcases q with r' | up' | ⟨r', refusal⟩ | ⟨thumbprint, r'⟩
  · rcases cached_of_walk_ask hq with ⟨_, hop⟩ | ⟨_, _, _, _, hop⟩ <;> cases hop
  · rcases walk_ask_iff.1 hq with ⟨rfl, hop⟩ | ⟨answer, u₃, rfl, hend⟩
    · cases hop
      rw [List.append_nil]
      exact .inl ⟨t, after, hwalk, hserved⟩
    · rcases walk_done_iff.1 hend with ⟨_, hop⟩
      cases hop
  · have hasked := asked_of_walk hwalk
    cases hasked with
    | negotiate hbare hstatus =>
        rcases negotiate_of_walk_ask hq with ⟨a, hselect, ⟨next, hwork⟩ | ⟨granted, _, hop⟩⟩
        · exact .inr ⟨refusal, a, u₁, u₂, next, rfl, ⟨hbare, hstatus, hselect, hserved⟩, hwork⟩
        · cases hop
  · rcases ((c.session.proof_only thumbprint r').walk hq).2.1 with hop | ⟨_, hop⟩ <;> cases hop

/-- Every request that the errand of a send hands to the transport is handed over by the send. -/
theorem Errand.transmit_of_walk {registry : Registry} {errand : Errand} {session : Session}
    {r up : Request} {u : Transcript World} {op : Act} {next : op.Answer → Run errand.Result}
    (hsend : errand = .send session r) (hact : op = .transmit up)
    (h : Walk (errand.program registry) u (ask (I := World) op next)) :
    (∃ t after, Walk (ClientExchange.program r) t (ask (I := ClientExchange) (.transmit up) after) ∧
        Served (Client.inWorld ⟨session, registry⟩) t u) ∨
      Client.FromAuthenticator ⟨session, registry⟩ r u up := by
  subst hsend hact
  exact Client.transmit_of_walk h

namespace Errand

variable {ι : Type} [DecidableEq ι] {registry : Registry} {errands : ι → Errand} {s : Store}
  {l l₁ l₂ : List (Event ι)} {e : Event ι} {i : ι} {session : Session} {uri : Url}
  {a : Authenticator} {c : Credential} {r up : Request} {t : Transcript ClientExchange}

/-- As `Granted`, with the authenticator that returned the credential. -/
inductive GrantedBy (registry : Registry) (errands : ι → Errand) (l : List (Event ι)) (i : ι)
    (session : Session) (uri : Url) (a : Authenticator) (c : Credential) : Prop where
  | mk {r : Request} {refusal : Response} {before run after : Transcript World} :
      errands i = .send session r → r.uri.Alike uri → ¬ Carries r →
      refusal.status = unauthorized → registry.select session refusal.challenges = some a →
      partOf i l = before ++ ⟨.transmit r, .ok refusal⟩ :: (run ++ after) →
      Walk (a.acquire session r (Registry.algorithms refusal.challenges)) run (done (.ok c)) →
      GrantedBy registry errands l i session uri a c

theorem Granted.exists_grantedBy (h : Granted registry errands l i session uri c) :
    ∃ a, GrantedBy registry errands l i session uri a c := by
  cases h with
  | mk hsend huri hbare hstatus hselect hpart hrun =>
      exact ⟨_, .mk hsend huri hbare hstatus hselect hpart hrun⟩

/-- What has been granted stays granted. -/
theorem GrantedBy.append (h : GrantedBy registry errands l₁ i session uri a c)
    (l₂ : List (Event ι)) : GrantedBy registry errands (l₁ ++ l₂) i session uri a c := by
  cases h with
  | @mk r refusal before run after hsend huri hbare hstatus hselect hpart hrun =>
      have hpart' : partOf i (l₁ ++ l₂) =
          before ++ ⟨.transmit r, .ok refusal⟩ :: (run ++ (after ++ partOf i l₂)) := by
        rw [partOf_append, hpart]
        simp
      exact .mk hsend huri hbare hstatus hselect hpart' hrun

theorem Source.exists_grantedBy (h : Source registry errands l i session uri c) :
    ∃ j a, GrantedBy registry errands l j session uri a c := by
  cases h with
  | negotiated hgranted => exact ⟨i, hgranted.exists_grantedBy⟩
  | cached hl _ _ _ _ hgranted _ =>
      rcases hgranted.exists_grantedBy with ⟨a, hby⟩
      rw [hl]
      exact ⟨_, a, hby.append _⟩

/-- Where the exchange of a send `i` has a credential from: it was negotiated with the authenticator
that is selected for the refusal, or it was recalled, and the authenticator had returned it to a send of
the same session. -/
inductive Origin (registry : Registry) (errands : ι → Errand) (l : List (Event ι)) (i : ι)
    (session : Session) (r : Request) (t : Transcript ClientExchange) (a : Authenticator)
    (c : Credential) : Prop where
  | negotiated {refusal : Response} :
      (⟨.negotiate r refusal, .ok (some c)⟩ : Entry ClientExchange) ∈ t →
      registry.select session refusal.challenges = some a →
      GrantedBy registry errands l i session r.uri a c →
      Origin registry errands l i session r t a c
  | recalled {j : ι} : (⟨.recall r, some c⟩ : Entry ClientExchange) ∈ t →
      GrantedBy registry errands l j session r.uri a c →
      Origin registry errands l i session r t a c

theorem Origin.exists_grantedBy (h : Origin registry errands l i session r t a c) :
    ∃ j, GrantedBy registry errands l j session r.uri a c := by
  cases h with
  | negotiated _ _ hby => exact ⟨i, hby⟩
  | recalled _ hby => exact ⟨_, hby⟩

theorem Origin.offered (h : Origin registry errands l i session r t a c) : Offered r t c := by
  cases h with
  | negotiated hmem _ _ => exact .inr ⟨_, hmem⟩
  | recalled hmem _ => exact .inl hmem

namespace Traffic

/-- Whatever is on offer has an origin. -/
theorem exists_origin (h : Traffic registry errands s l) (hsend : errands i = .send session r)
    {q : Program ClientExchange (Except Failure Response)} (hwalk : Walk (ClientExchange.program r) t q)
    (hserved : Served (Client.inWorld ⟨session, registry⟩) t (partOf i l)) (hoffered : Offered r t c) :
    ∃ a, Origin registry errands l i session r t a c := by
  rcases offered_of_walk hwalk hoffered with ⟨b, rfl⟩ | ⟨refusal, b, hbare, hstatus, rfl⟩
  · rcases Client.recalled_of_served hserved with ⟨now, u', hpart, hlive⟩
    rcases (h.source_of_recall hsend hpart hlive).exists_grantedBy with ⟨j, a, hby⟩
    exact ⟨a, .recalled (.head _) hby⟩
  · rcases Client.granted_of_served hbare hstatus hserved with
      ⟨a, u, run, after, hpart, hrefused, hrun⟩
    rcases hrefused.exists_before with ⟨before, rfl⟩
    have hnegotiated : (⟨.negotiate r refusal, .ok (some c)⟩ : Entry ClientExchange) ∈
        refusedRecord r refusal ++ ⟨.negotiate r refusal, .ok (some c)⟩ :: b := by simp
    have hpart' : partOf i l = before ++ ⟨.transmit r, .ok refusal⟩ :: (run ++ after) := by
      rw [hpart]
      simp
    exact ⟨a, .negotiated hnegotiated hrefused.selected
      (.mk hsend (.refl r.uri) hbare hstatus hrefused.selected hpart' hrun)⟩

/-! ## Faithful slots -/

/-- Every step of an errand keeps slots faithful. -/
theorem act_faithful (h : Traffic registry errands s (l₁ ++ e :: l₂)) (hfaithful : registry.Faithful) :
    e.act.Faithful := by
  rcases h.asks with ⟨session, _, hop | hop⟩ | ⟨session, r, _, hasks⟩
  · rw [hop]
    trivial
  · rw [hop]
    trivial
  · generalize e.act = op at hasks ⊢
    generalize partOf e.who l₁ = u at hasks
    cases hasks with
    | work hrefused hwork =>
        exact ((hfaithful _ _ _ hrefused.selected _ _).walk hwork).2.1
    | prove hop => rcases hop with rfl | ⟨_, rfl⟩ <;> trivial
    | _ => trivial

theorem store_faithful (h : Traffic registry errands s l) (hfaithful : registry.Faithful)
    (hs : s.Faithful) : (storeAfter s l).Faithful := by
  refine storeAfter_faithful hs ?_
  intro e he
  rcases List.append_of_mem he with ⟨l₁, l₂, rfl⟩
  exact h.act_faithful hfaithful

/-- What a look shows is what the slot holds. -/
theorem faithful_of_look (h : Traffic registry errands s l) (hfaithful : registry.Faithful)
    (hs : s.Faithful) {id : SessionId}
    {x : Slot.Look} (hlook : (⟨.look id, x⟩ : Entry World) ∈ partOf i l) (hheld : x.1.credential = some c) :
    c.Faithful := by
  rcases mem_partOf hlook with ⟨l₁, ⟨who, act, answer, time⟩, l₂, rfl, _, hx⟩
  cases hx
  have hshown : answer = (((storeAfter s l₁).vault id).slot, time) := h.admits
  rw [hshown] at hheld
  exact h.of_append.store_faithful hfaithful hs id c hheld

/-- What the authenticators for identity tokens return is faithful. -/
theorem faithful_of_grantedBy (h : Traffic registry errands s l) (hfaithful : registry.Faithful)
    (hs : s.Faithful) {needsProof : Bool}
    (hby : GrantedBy registry errands l i session uri (IdToken.authenticator needsProof) c) :
    c.Faithful ∧ (needsProof = true → c.thumbprint ≠ none) ∧
      ∃ settings renewable, session.identity = .openId settings renewable := by
  cases hby with
  | mk _ _ _ _ _ hpart hrun =>
      rcases IdToken.presented_of_walk hrun with ⟨hidentity, hbound, ⟨x, hlook, hheld⟩ | hfresh⟩
      · have hmem : (⟨.look session.number, x⟩ : Entry World) ∈ partOf i l := by
          rw [hpart]
          simp [hlook]
        exact ⟨h.faithful_of_look hfaithful hs hmem hheld, hbound, hidentity⟩
      · exact ⟨hfresh, hbound, hidentity⟩

end Traffic

/-! ## Bound tokens -/

/-- What becomes of identity tokens in a run of errands. -/
structure TokenPresentation (registry : Registry) (errands : ι → Errand) (s : Store)
    (l : List (Event ι)) : Prop where
  /-- A session of a token begins with the faithful credential of the token. -/
  begun : ∀ number cache verification token u session,
    Walk (Session.ofToken number cache verification token) u (done (.ok session)) →
    ∃ u' c, u = u' ++ [⟨.establish number cache (some c), ()⟩] ∧ c.token = token ∧ c.Faithful
  /-- A session that refreshes puts the faithful credential of the fresh token into its slot. -/
  refilled : ∀ (session : Session) name u i c next,
    Walk (session.credential name) u (ask (I := World) (.settle i (.ok (some c))) next) →
    c.Faithful ∧ ∃ x y token u',
      u = Slot.opening session.number x y ++
        ⟨.pause, ()⟩ :: ⟨.freshToken session.number, .ok token⟩ :: u' ∧ c.token = token
  /-- At any time all long-lived credentials are faithful. -/
  held : ∀ id c, ((storeAfter s l).vault id).slot.credential = some c → c.Faithful
  /-- So are the credentials that are returned for challenges; if such a challenge demands a proof, the
  token is bound. -/
  returned : ∀ i session uri needsProof c,
    GrantedBy registry errands l i session uri (IdToken.authenticator needsProof) c →
    c.Faithful ∧ (needsProof = true → ∃ k, Token.thumbprint? c.token = some k)
  /-- Every credential that an exchange is offered was returned by an authenticator. -/
  origin : ∀ i session r t q c, errands i = .send session r → Walk (ClientExchange.program r) t q →
    Served (Client.inWorld ⟨session, registry⟩) t (partOf i l) → Offered r t c →
    ∃ a, Origin registry errands l i session r t a c
  /-- A send that has ended has presented a bound token with a proof by its key, or there is a reason
  why it has not presented it. -/
  complete : ∀ i session r v, errands i = .send session r →
    Walk (Client.send ⟨session, registry⟩ r) (partOf i l) (done v) →
    ∃ t, Walk (ClientExchange.program r) t (done v) ∧
      Served (Client.inWorld ⟨session, registry⟩) t (partOf i l) ∧
      ∀ needsProof c k, Origin registry errands l i session r t (IdToken.authenticator needsProof) c →
        Token.thumbprint? c.token = some k →
        c.scheme = dpop ∧ c.thumbprint = some k ∧
          Presented session.proofKeys r c (partOf i l) (sent t) v
  /-- A request that a send hands over with a credential is its caller's, or an authenticator's; or it
  is the upgraded one, and if that carries a bound token it has a proof by its key. -/
  underway : ∀ l₁ e l₂ session r up, l = l₁ ++ e :: l₂ → errands e.who = .send session r →
    e.act = .transmit up → Carries up →
    (Carries r ∧ up = r) ∨
      Client.FromAuthenticator ⟨session, registry⟩ r (partOf e.who l₁) up ∨
      ∃ t a c, Origin registry errands l₁ e.who session r t a c ∧ Upgrade r c up ∧
        ∀ needsProof k,
          Origin registry errands l₁ e.who session r t (IdToken.authenticator needsProof) c →
          Token.thumbprint? c.token = some k →
          c.scheme = dpop ∧ c.thumbprint = some k ∧ Proven session.proofKeys c up

namespace Traffic

variable (h : Traffic registry errands s l) (hfaithful : registry.Faithful) (hs : s.Faithful)

include h hfaithful hs

/-- A credential of a bound token that an exchange has from an authenticator for identity tokens. -/
theorem bound_of_origin {needsProof : Bool} {k : String}
    (horigin : Origin registry errands l i session r t (IdToken.authenticator needsProof) c)
    (htoken : Token.thumbprint? c.token = some k) :
    c.scheme = dpop ∧ c.thumbprint = some k ∧
      ∃ settings renewable, session.identity = .openId settings renewable := by
  rcases horigin.exists_grantedBy with ⟨j, hby⟩
  rcases h.faithful_of_grantedBy hfaithful hs hby with ⟨hc, _, hidentity⟩
  exact ⟨hc.scheme_eq htoken, hc.thumbprint_eq.trans htoken, hidentity⟩

theorem presented_of_complete {v : Except Failure Response} (hsend : errands i = .send session r)
    (hwalk : Walk (Client.send ⟨session, registry⟩ r) (partOf i l) (done v)) :
    ∃ t, Walk (ClientExchange.program r) t (done v) ∧
      Served (Client.inWorld ⟨session, registry⟩) t (partOf i l) ∧
      ∀ needsProof c k, Origin registry errands l i session r t (IdToken.authenticator needsProof) c →
        Token.thumbprint? c.token = some k →
        c.scheme = dpop ∧ c.thumbprint = some k ∧
          Presented session.proofKeys r c (partOf i l) (sent t) v := by
  cases hidentity : session.identity with
  | anonymous =>
      rcases hwalk.of_interpret_done with ⟨t, ht, hserved⟩
      refine ⟨t, ht, hserved, ?_⟩
      intro needsProof c k horigin htoken
      -- such a session has no identity token to present
      rcases h.bound_of_origin hfaithful hs horigin htoken with ⟨_, _, settings, renewable, hopen⟩
      rw [hidentity] at hopen
      cases hopen
  | openId settings renewable =>
      rcases session with ⟨number, name, identity⟩
      cases hidentity
      rcases (proof_binding number name settings renewable registry r).complete _ v hwalk with
        ⟨t, ht, hserved, hpresented⟩
      refine ⟨t, ht, hserved, ?_⟩
      intro needsProof c k horigin htoken
      rcases h.bound_of_origin hfaithful hs horigin htoken with ⟨hscheme, hthumbprint, _⟩
      exact ⟨hscheme, hthumbprint,
        hpresented c horigin.offered (Credential.isDpop_of_scheme hscheme)⟩

omit h in
theorem proven_of_underway (h : Traffic registry errands s (l₁ ++ e :: l₂))
    (hsend : errands e.who = .send session r) (hact : e.act = .transmit up) (hcarries : Carries up) :
    (Carries r ∧ up = r) ∨
      Client.FromAuthenticator ⟨session, registry⟩ r (partOf e.who l₁) up ∨
      ∃ t a c, Origin registry errands l₁ e.who session r t a c ∧ Upgrade r c up ∧
        ∀ needsProof k,
          Origin registry errands l₁ e.who session r t (IdToken.authenticator needsProof) c →
          Token.thumbprint? c.token = some k →
          c.scheme = dpop ∧ c.thumbprint = some k ∧ Proven session.proofKeys c up := by
  rcases h.runs with ⟨d, hruns⟩
  rcases hruns.event with ⟨⟨next, hwalk⟩, _⟩
  rcases transmit_of_walk hsend hact hwalk with ⟨t, after, ht, hserved⟩ | hauthenticator
  · -- the exchange hands over the request of its caller, or one that it has built
    have hasked := asked_of_walk ht
    cases hasked with
    | transmit hbefore =>
        rcases hbefore.built with rfl | ⟨c, t₁, b, hoffered, hbuilt, rfl⟩
        · exact .inl ⟨hcarries, rfl⟩
        · rcases h.of_append.exists_origin hsend ht hserved hoffered with ⟨a, horigin⟩
          refine .inr (.inr ⟨_, a, c, horigin, hbuilt.upgrade, ?_⟩)
          intro needsProof k horigin' htoken
          rcases h.of_append.bound_of_origin hfaithful hs horigin' htoken with
            ⟨hscheme, hthumbprint, _⟩
          refine ⟨hscheme, hthumbprint, ?_⟩
          rcases hserved.of_append with ⟨_, u₂, _, _, hproof⟩
          rcases hbuilt.proven_or_withheld hproof (Credential.isDpop_of_scheme hscheme) with
            ⟨_, hx, _⟩ | ⟨hx, _⟩ | ⟨up', hx, _, hproven⟩
          · cases hx
          · cases hx
          · cases hx
            exact hproven
  · exact .inr (.inl hauthenticator)

end Traffic

/-- In every run of sends and resets bound tokens are presented with a proof by their key, or not at
all. -/
theorem token_presentation (hbegun : Begun s) (h : Traffic registry errands s l)
    (hfaithful : registry.Faithful) : TokenPresentation registry errands s l where
  begun number cache verification token u session hwalk := Session.ofToken_of_walk hwalk
  refilled session name u i c next hwalk := by
    rcases Session.settle_of_walk hwalk with ⟨_, x, y, u', own, rfl, _, hrefresh, houtcome⟩
    have hown : own = .ok (some c) := mapError_eq_ok.1 houtcome.symm
    subst hown
    rcases Session.faithful_of_refresh hrefresh with ⟨hc, token, u'', rfl, htoken⟩
    exact ⟨hc, x, y, token, u'', rfl, htoken⟩
  held := h.store_faithful hfaithful hbegun.faithful
  returned i session uri needsProof c hby := by
    rcases h.faithful_of_grantedBy hfaithful hbegun.faithful hby with ⟨hc, hbound, _⟩
    refine ⟨hc, fun hneeds => ?_⟩
    rw [← hc.thumbprint_eq]
    exact Option.ne_none_iff_exists'.1 (hbound hneeds)
  origin i session r t q c hsend hwalk hserved hoffered :=
    h.exists_origin hsend hwalk hserved hoffered
  complete i session r v hsend hwalk :=
    h.presented_of_complete hfaithful hbegun.faithful hsend hwalk
  underway := by
    rintro l₁ e l₂ session r up rfl hsend hact hcarries
    exact Traffic.proven_of_underway hfaithful hbegun.faithful h hsend hact hcarries

/-! ### Three tokens that confirm a key -/

namespace Cards

/-- A token whose confirmation has the field `jkt`. -/
def whole : String :=
  "eyJhbGciOiJIUzI1NiJ9." ++
  "eyJpc3MiOiJ1cm46aSIsInN1YiI6ImEiLCJpYXQiOjAsImV4cCI6NDEwMjQ0NDgwMCwiY25mIjp7ImprdCI6ImsifX0." ++
  "s"

/-- The same, with the end of a line behind it. -/
def torn : String := whole ++ "\n"

/-- A token whose confirmation is a list. -/
def listed : String :=
  "eyJhbGciOiJIUzI1NiJ9." ++
  "eyJpc3MiOiJ1cm46aSIsInN1YiI6ImEiLCJpYXQiOjAsImV4cCI6NDEwMjQ0NDgwMCwiY25mIjpbImsiXX0." ++
  "s"

/-- What a token with a confirmation says. -/
def payload (confirmation : Json) : Json :=
  .ofFields [("iss", .string "urn:i"), ("sub", .string "a"), ("iat", .integer 0),
    ("exp", .integer 4102444800), ("cnf", confirmation)]

/-- Whom the tokens speak for, and the key that they confirm. -/
def identity : IdentityClaims :=
  { issuer := "urn:i", subject := "a", expiration := 4102444800, thumbprint := some "k" }

def credential (token : String) : Credential :=
  IdToken.credentialOf token identity { scheme := "urn", path := "i" } ⟨4102444800, 0⟩

/-- A session of one of the tokens. It has no proof keys. -/
def holder : Session := ⟨0, IdToken.sessionOf identity, .openId {} false⟩

set_option maxRecDepth 1500 in
theorem payload_whole :
    Token.payload? whole = some (payload (.ofFields [("jkt", .string "k")])) := by cbv

set_option maxRecDepth 1500 in
theorem payload_torn :
    Token.payload? torn = some (payload (.ofFields [("jkt", .string "k")])) := by cbv

set_option maxRecDepth 1500 in
theorem payload_listed : Token.payload? listed = some (payload (.list [.string "k"])) := by cbv

/-- The tokens pass. -/
theorem accept_card {token : String} (htoken : token = whole ∨ token = torn ∨ token = listed) :
    IdToken.header {} token = .ok ⟨.hs256, none, none, none⟩ ∧
      IdToken.accept {} token ⟨.hs256, none, none, none⟩ none ⟨0, 0⟩ =
        .ok ⟨credential token, IdToken.sessionOf identity⟩ := by
  have hissuer : Url.parse identity.issuer = .ok { scheme := "urn", path := "i" } := by cbv
  have hexpiration : IdToken.expirationOf identity 0 = some ⟨4102444800, 0⟩ := by decide +kernel
  have hcheck : ({ expiration := some 4102444800 } : LimitClaims).check none 0 ⟨0, 0⟩ = .ok () := by
    simp [LimitClaims.check]
  have haccept : ∀ j, Token.payload? token = some j → IdentityClaims.ofJson? j = some identity →
      LimitClaims.ofJson? j = some { expiration := some 4102444800 } →
      IdToken.accept {} token ⟨.hs256, none, none, none⟩ none ⟨0, 0⟩ =
        .ok ⟨credential token, IdToken.sessionOf identity⟩ := by
    intro j hj hidentity hlimits
    exact IdToken.accept_eq_ok.2 ⟨identity, _, _, _, IdToken.claims_of_payload hj hidentity hlimits,
      hcheck, hissuer, hexpiration, rfl⟩
  rcases htoken with rfl | rfl | rfl
  · exact ⟨by cbv, haccept _ payload_whole (by decide +kernel) (by decide +kernel)⟩
  · exact ⟨by cbv, haccept _ payload_torn (by decide +kernel) (by decide +kernel)⟩
  · exact ⟨by cbv, haccept _ payload_listed (by decide +kernel) (by decide +kernel)⟩

def page : Url := { scheme := "urn", path := "page" }

/-- A refusal with a challenge for bearer tokens. -/
def refusal : Response where
  status := unauthorized
  uri := page
  headers := ({} : Headers).set "www-authenticate" (Utf8.encode bearer)

/-- An outside in which every request is refused. -/
def outside : Outside Unit := { IdToken.silence with transmit := fun _ w => (.ok refusal, w) }

/-- The store in which a session of a token has been begun. -/
def begun (token : String) : Store := Act.onStore {} (.establish 0 {} (some (credential token)))

theorem begin_card {token : String} (htoken : token = whole ∨ token = torn ∨ token = listed) :
    (Session.ofToken 0 {} {} token).alone outside ({}, ()) = (.ok holder, (begun token, ())) := by
  rcases accept_card htoken with ⟨hheader, haccept⟩
  have hverify : (IdToken.verify {} token).run outside.step ({}, ()) =
      (.ok ⟨credential token, IdToken.sessionOf identity⟩, ({}, ())) := by
    unfold IdToken.verify
    rw [hheader]
    exact congrArg (fun x => (x, (({} : Store), ()))) (mapError_eq_ok.2 haccept)
  rw [Run.alone, Session.ofToken, bind_eq_bind, run_bind, hverify]
  rfl

def cards : Registry := .standard {} {}

theorem select_refusal :
    cards.select holder refusal.challenges = some (IdToken.authenticator false) := by
  have hchallenges : refusal.challenges = [⟨bearer, .empty⟩] := by decide +kernel
  rw [hchallenges]
  rfl

/-! A send of the session: it is refused, presents its token, and has no key for it. -/

def now : Instant := ⟨0, 0⟩

def log : List (Event Unit) :=
  [⟨(), .recall 0 (CredentialCache.key page), (none, now), now⟩,
    ⟨(), .transmit (.get page), .ok refusal, now⟩,
    ⟨(), .look 0, ({ credential := some (credential listed) }, now), now⟩,
    ⟨(), .retain 0 (CredentialCache.key page) (credential listed), (), now⟩]

def exchange : Transcript ClientExchange :=
  [⟨.recall (.get page), none⟩, ⟨.transmit (.get page), .ok refusal⟩,
    ⟨.negotiate (.get page) refusal, .ok (some (credential listed))⟩,
    ⟨.prove "k" (.get page), .ok none⟩]

theorem walk_negotiate :
    Walk (cards.negotiate holder (.get page) refusal.challenges)
      [⟨.look 0, ({ credential := some (credential listed) }, now)⟩,
        ⟨.retain 0 (CredentialCache.key page) (credential listed), ()⟩]
      (done (.ok (some (credential listed)))) := by
  rw [Registry.negotiate_eq, select_refusal]
  exact .answered (.answered (.here _))

theorem walk_exchange : Walk (ClientExchange.program (.get page)) exchange
    (done (.error (.proof (.unknownThumbprint "k")))) :=
  walk_unknown (c := credential listed) (not_carries_get page) rfl (if_pos (by decide +kernel))
    (by decide) rfl

theorem served_exchange : Served (Client.inWorld ⟨holder, cards⟩) exchange (partOf () log) := by
  have hcached : Walk (holder.cached (.get page))
      [⟨.recall 0 (CredentialCache.key page), (none, now)⟩] (done none) := .answered (.here _)
  have hproof : Walk (holder.proof "k" (.get page)) [] (done (.ok none)) := .here _
  exact .cons hcached (.cons (walk_perform (I := World) (.transmit (.get page)) (.ok refusal))
    (.cons walk_negotiate (.cons hproof .none rfl) rfl) rfl) rfl

theorem traffic_cards : Traffic cards (fun _ => .send holder (.get page)) (begun listed) log where
  runs := by
    refine exists_runs ?_ ?_
    · exact ⟨rfl, rfl, rfl, trivial, rfl, rfl, rfl, trivial, trivial⟩
    · exact fun _ => ⟨_, walk_exchange.interpret served_exchange⟩
  fresh := fun _ => rfl
  numbered := fun _ _ _ => rfl
  sparing := Registry.standard_sparing (by simp)

theorem begun_listed : Begun (begun listed) := by
  have hstore : begun listed =
      storeAfter {} (steps ((Session.ofToken 0 {} {} listed).transcript outside.step ({}, ()))) := by
    rw [← alone_store, begin_card (.inr (.inr rfl))]
  rw [hstore]
  exact .ofToken .none (walk_transcript outside.step (Session.ofToken 0 {} {} listed) ({}, ()))

end Cards

open Cards in
/-- A session is begun with a bound token, without the key; its send has presented the token to no one. -/
theorem token_presentation_cards :
    Begun (begun listed) ∧
      Traffic cards (fun _ => .send holder (.get page)) (begun listed) log ∧ cards.Faithful ∧
      TokenPresentation cards (fun _ => .send holder (.get page)) (begun listed) log ∧
      Token.thumbprint? listed = some "k" ∧
      Walk (Client.send ⟨holder, cards⟩ (.get page)) (partOf () log)
        (done (.error (.proof (.unknownThumbprint "k")))) := by
  have hfaithful : cards.Faithful := Registry.standard_faithful (by simp)
  refine ⟨begun_listed, traffic_cards, hfaithful,
    token_presentation begun_listed traffic_cards hfaithful, ?_, walk_exchange.interpret served_exchange⟩
  rw [Token.thumbprint?, payload_listed]
  rfl

namespace Cards

/-- The first token as a bearer token. -/
def unbound : Credential := { credential whole with scheme := bearer, thumbprint := none }

/-- A registry that has besides the authenticators for identity tokens one that makes the session keep the
token for the annex. -/
def spoiled : Registry := Meddling.registry (.get Meddling.annex) unbound

/-- An outside in which the page is refused with a challenge for bearer tokens, another one with a
challenge for tickets, and nothing else is refused. -/
def mixed : Outside Unit :=
  .still fun r => .ok
    (if r.uri = shelf then refusal
      else if r.uri = Meddling.page then Meddling.refusal
      else { uri := r.uri, status := 200 })

/-- The store behind a send for the first, and behind one for the other. -/
def asked : Store :=
  ((Client.send ⟨holder, spoiled⟩ (.get shelf)).alone mixed (begun whole, ())).2.1

def spread : Store :=
  ((Client.send ⟨holder, spoiled⟩ (.get Meddling.page)).alone mixed (asked, ())).2.1

/-- A challenge for bearer tokens is answered with the token, for which there is no key; but what another
authenticator has made the session keep is presented without a proof. -/
theorem presented_unbound :
    spoiled.select holder refusal.challenges = some (IdToken.authenticator false) ∧
      ((Client.send ⟨holder, spoiled⟩ (.get shelf)).alone mixed (begun whole, ())).1 =
        .error (.proof (.unknownThumbprint "k")) ∧
      (Client.send ⟨holder, spoiled⟩ (.get Meddling.annex)).transmitted mixed (spread, ()) =
        [(Request.get Meddling.annex).setHeader authorizationField ("Bearer " ++ whole)] := by
  have hchallenges : refusal.challenges = [⟨bearer, .empty⟩] := by decide +kernel
  refine ⟨?_, by decide +kernel, by decide +kernel⟩
  rw [hchallenges]
  rfl

end Cards

open Cards in
/-- The tokens `torn` and `whole` confirm a key in the field `jkt`.  And yet the send that would present the
first fails for another reason than a missing proof: no header can hold it.  The other one is presented as
a bearer token, where an authenticator stores what it likes.  The token `listed` has no such field, and
demands proofs all the same. -/
theorem torn_unproven :
    (((Token.payload? torn).bind (Json.field? "cnf")).bind (Json.field? "jkt") =
          some (Json.string "k") ∧
        (Session.ofToken 0 {} {} torn).alone outside ({}, ()) = (.ok holder, (begun torn, ())) ∧
        cards.select holder refusal.challenges = some (IdToken.authenticator false) ∧
        ((Client.send ⟨holder, cards⟩ (.get page)).alone outside (begun torn, ())).1 =
          .error (.transport
            (.invalidRequest "invalid header value: failed to parse header value"))) ∧
      (((Token.payload? listed).bind (Json.field? "cnf")).bind (Json.field? "jkt") = none ∧
        (Session.ofToken 0 {} {} listed).alone outside ({}, ()) = (.ok holder, (begun listed, ())) ∧
        ((begun listed).vault 0).slot.credential = some (credential listed) ∧
        (credential listed).scheme = dpop ∧ (credential listed).thumbprint = some "k") ∧
      ((Token.payload? whole).bind (Json.field? "cnf")).bind (Json.field? "jkt") =
          some (Json.string "k") ∧
        (Session.ofToken 0 {} {} whole).alone outside ({}, ()) = (.ok holder, (begun whole, ())) ∧
        spoiled.select holder refusal.challenges = some (IdToken.authenticator false) ∧
        ((Client.send ⟨holder, spoiled⟩ (.get shelf)).alone mixed (begun whole, ())).1 =
          .error (.proof (.unknownThumbprint "k")) ∧
        (Client.send ⟨holder, spoiled⟩ (.get Meddling.annex)).transmitted mixed (spread, ()) =
          [(Request.get Meddling.annex).setHeader authorizationField ("Bearer " ++ whole)] := by
  refine ⟨⟨?_, begin_card (.inr (.inl rfl)), select_refusal, ?_⟩,
    ⟨?_, begin_card (.inr (.inr rfl)), rfl, rfl, rfl⟩, ?_, begin_card (.inl rfl), presented_unbound⟩
  · rw [payload_torn]
    rfl
  · decide +kernel
  · rw [payload_listed]
    rfl
  · rw [payload_whole]
    rfl

end Errand
end Countersign
