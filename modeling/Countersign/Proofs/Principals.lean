import Countersign.Proofs.ExpiryChecks
import Countersign.Proofs.Forgetting
import Countersign.Proofs.SessionNames

/-!
# Principals — whom a session acts as, before and after its token expires

A session that was begun with a token and has no source of fresh ones keeps one credential.  Asked for
whom it acts as, it reads the slot.  The slot holds the credential also when it has expired, up to the
first call that refreshes: this call has nothing to refresh with, and writes just that.  From then on the
session acts as nobody.

* `Session.Abides` — programs that leave the slot of a session to its calls, and do not reset it;
* `Session.Query`, `Session.Service` — calls on a session that do not reset it, and their runs;
* `Session.Uses.settled` — whoever ends a refresh was shown that there is no live credential;
* `Session.Service.slot_of_unsettled`, `Session.Service.empty_of_settled` — the slot before and after that;
* `Session.Principals` — what such a session answers for its principal;
* `Session.principals_of_token` — this holds of every run after the session has begun;
* `Session.principal_lost` — a run in which the principal disappears.
-/

namespace Countersign

open Program Slot

/-! ## Whom a token names -/

/-- The principal that a token names: the identity on the web that it claims, or else its subject, if it
is a URL. -/
def Token.principal? (token : String) : Option Url :=
  ((Token.claim? "webid" token).bind fun webid => (Url.parse webid).toOption).or
    ((Token.claim? "sub" token).bind fun subject => (Url.parse subject).toOption)

/-- The credential of an accepted token has the principal that the token names. -/
theorem IdToken.principal_of_walk {settings : VerificationSettings} {token : String}
    {u : Transcript World} {v : VerifiedToken}
    (hwalk : Walk (verify settings token) u (done (.ok v))) :
    v.credential.principal = Token.principal? token := by
  rcases texts_of_walk hwalk with ⟨c, _, hsubject, hwebid, hprincipal, _⟩
  rw [hprincipal, Token.principal?, hwebid, hsubject, Option.bind_some]
  rfl

namespace Session

variable {s : Session}

/-! ## Calls that do not reset a session -/

/-- Programs that leave the vault of a session alone use the session. -/
theorem Uses.of_only {α : Type} {p : Run α} (h : p.Only fun op : Act => op.fills s.number = false) :
    Uses s p := by
  induction p with
  | done a => exact .done a
  | ask op next ih => exact .ask h.1 fun answer => ih answer (h.2 answer)

/-- A call that ends its refresh was shown at its first look that there is no live credential. -/
theorem missed_of_settle {name : String} {t : Transcript World}
    {outcome : Except String (Option Credential)} {next : Instant → Run Slot.Outcome}
    (h : Walk (s.credential name) t (.ask (I := World) (.settle s.number outcome) next)) :
    ∃ x u own, t = ⟨.look s.number, x⟩ :: u ∧ Missed x ∧ (∃ u', Walk s.refresh u' (.done own)) ∧
      outcome = outcomeText own := by
  have hcall : Walk (getOrRefresh s.number s.refresh) t
      (.ask (I := World) (.settle s.number outcome) next) := by
    unfold credential at h
    cases hidentity : s.identity with
    | anonymous =>
        rw [hidentity] at h
        cases (walk_done_iff.1 h).2
    | openId settings renewable =>
        rw [hidentity] at h
        dsimp only at h
        split at h
        · exact h
        · cases (walk_done_iff.1 h).2
  obtain ⟨q, hq, hplace⟩ : ∃ q, q = Program.ask (I := World) (.settle s.number outcome) next ∧
      Place s.number s.refresh t q := ⟨_, rfl, place_of_walk hcall⟩
  cases hplace with
  | work _ _ hwork =>
      -- no refresh ends another one
      cases hq
      exact (s.refresh_only.walk hwork).2.1.elim
  | write hmissed _ hend =>
      cases hq
      exact ⟨_, _, _, rfl, hmissed, ⟨_, hend⟩, rfl⟩
  | _ => cases hq

/-- Whoever ends a refresh of the session was shown at a look that there is no live credential, and has
gone through all of the refresh. -/
theorem Uses.settled {α : Type} {p : Run α} (huses : Uses s p) :
    ∀ {t : Transcript World} {outcome : Except String (Option Credential)} {next : Instant → Run α},
      Walk p t (.ask (I := World) (.settle s.number outcome) next) →
      ∃ before x u own, t = before ++ ⟨.look s.number, x⟩ :: u ∧ Missed x ∧
        (∃ u', Walk s.refresh u' (.done own)) ∧ outcome = outcomeText own := by
  induction huses with
  | done a =>
      intro t outcome next h
      cases (walk_done_iff.1 h).2
  | @ask _ op _ hspares _ ih =>
      intro t outcome next h
      rcases walk_ask_iff.1 h with ⟨_, hq⟩ | ⟨answer, t', rfl, hrest⟩
      · cases hq
        simp [Act.fills] at hspares
      · rcases ih answer hrest with ⟨before, x, u, own, rfl, hshown⟩
        exact ⟨⟨op, answer⟩ :: before, x, u, own, rfl, hshown⟩
  | credential name =>
      intro t outcome next h
      rcases missed_of_settle h with ⟨x, u, own, rfl, hshown⟩
      exact ⟨[], x, u, own, rfl, hshown⟩
  | authenticate a r names _ ih =>
      intro t outcome next h
      obtain ⟨q, hq, hauth⟩ : ∃ q, q = Program.ask (I := World) (.settle s.number outcome) next ∧
          s.Authenticating a r names t q := ⟨_, rfl, authenticating_of_walk h⟩
      -- behind the authenticator its credential is put away, and nothing is refreshed
      cases hauth with
      | working hwork =>
          cases hq
          exact ih hwork
      | _ => cases hq
  | bind _ _ ihp ihf =>
      intro t outcome next h
      rcases h.of_bind_ask with ⟨rest, hwork⟩ | ⟨a, t₁, t₂, rfl, _, hrest⟩
      · exact ihp hwork
      · rcases ihf a hrest with ⟨before, x, u, own, rfl, hshown⟩
        exact ⟨t₁ ++ before, x, u, own, by simp, hshown⟩

/-- Programs that get at the vault of a session through its operations, and do not clear its slot. -/
structure Abides (s : Session) {α : Type} (p : Run α) : Prop where
  uses : Uses s p
  keeps : p.Only fun op : Act => op ≠ .forget s.number

/-- Whether a question neither fills the vault of a session nor clears its slot. -/
def Quiet (s : Session) (op : Act) : Prop := op.fills s.number = false ∧ op ≠ .forget s.number

theorem quiet_of_external {op : Act} (h : op.External) : s.Quiet op := by
  refine ⟨?_, ?_⟩
  · cases op with
    | establish | settle | retain => exact h.elim
    | _ => rfl
  · rintro rfl
    exact h

theorem quiet_of_sparesVaults {op : Act} (h : op.SparesVaults) : s.Quiet op := by
  rcases h with hexternal | ⟨location, rfl⟩ | ⟨location, m, rfl⟩
  · exact quiet_of_external hexternal
  · exact ⟨rfl, Act.noConfusion⟩
  · exact ⟨rfl, Act.noConfusion⟩

namespace Abides

variable {α β : Type}

theorem of_quiet {p : Run α} (h : p.Only s.Quiet) : s.Abides p :=
  ⟨.of_only (h.mono fun _ hop => hop.1), h.mono fun _ hop => hop.2⟩

theorem bind {p : Run α} {f : α → Run β} (hp : s.Abides p) (hf : ∀ a, s.Abides (f a)) :
    s.Abides (p.bind f) :=
  ⟨.bind hp.uses fun a => (hf a).uses, hp.keeps.bind fun a => (hf a).keeps⟩

theorem credential (name : String) : s.Abides (s.credential name) where
  uses := .credential name
  keeps := by
    refine credential_only_of name (Slot.getOrRefresh_only Act.noConfusion Act.noConfusion
      Act.noConfusion ?_ fun _ _ _ => Act.noConfusion)
    exact s.refresh_only.mono fun _ hop => (quiet_of_external hop).2

theorem authenticate {a : Authenticator} {r : Request} {names : Names}
    (h : s.Abides (a.acquire s r names)) : s.Abides (s.authenticate a r names) where
  uses := .authenticate a r names h.uses
  keeps := by
    rw [authenticate_eq]
    refine h.keeps.bind fun outcome => ?_
    cases outcome with
    | error e => trivial
    | ok c => exact ⟨Act.noConfusion, fun _ => trivial⟩

/-- Presenting the identity token asks the session for nothing else. -/
theorem presenting (needsProof : Bool) (r : Request) (names : Names) :
    s.Abides ((IdToken.authenticator needsProof).acquire s r names) :=
  (credential IdToken.name).bind fun _ => .of_quiet trivial

/-- Obtaining a credential for a ticket leaves the vault alone, but for the identity token that it asks
for, if the handlers of claims do so. -/
theorem obtaining {p : TicketProvider} (hgather : ∀ h ∈ p.handlers, h.gather.Only s.Quiet)
    (c : TicketChallenge) (r : Request) (names : Names) :
    s.Abides ((p.authenticator c).acquire s r names) := by
  refine (credential IdToken.name).bind fun idToken => .of_quiet ?_
  cases idToken with
  | error e => trivial
  | ok idToken =>
      refine ((Discovery.document_only c.server).mono fun _ => quiet_of_sparesVaults).bind ?_
      intro document
      cases document with
      | error e => trivial
      | ok m =>
          exact TicketProvider.exchange_only (fun _ => quiet_of_sparesVaults) hgather c idToken m

/-- Every authenticator of the library abides by the session. -/
theorem standard {settings : NegotiationSettings} {tickets : TicketProvider} {s' : Session}
    {cs : List Challenge} {a : Authenticator} (hgather : ∀ h ∈ tickets.handlers, h.gather.Only s.Quiet)
    (hselect : (Registry.standard settings tickets).select s' cs = some a) (r : Request)
    (names : Names) : s.Abides (a.acquire s r names) :=
  Registry.of_standard (P := fun b => s.Abides (b.acquire s r names))
    (fun needsProof => presenting needsProof r names) (fun c => obtaining hgather c r names) hselect

end Abides

/-- A call on a session that does not reset it. -/
inductive Query where
  | credential (name : String)
  | authenticate (a : Authenticator) (r : Request) (names : Names)
  | cached (r : Request)
  | proof (thumbprint : String) (r : Request)
  | principal

/-- What a call ends in. -/
abbrev Query.Result : Query → Type
  | credential _ => Slot.Outcome
  | authenticate _ _ _ => Slot.Outcome
  | cached _ => Option Credential
  | proof _ _ => Except ProofError (Option String)
  | principal => Option Url

/-- The program of a call. -/
def Query.program (s : Session) : (q : Query) → Run q.Result
  | credential name => s.credential name
  | authenticate a r names => s.authenticate a r names
  | cached r => s.cached r
  | proof thumbprint r => s.proof thumbprint r
  | principal => s.principal

/-- A session without a source of tokens has nothing to refresh with. -/
theorem refresh_of_sourceless {settings : VerificationSettings}
    (hidentity : s.identity = .openId settings false) : s.refresh = done (.ok none) := by
  rw [refresh, hidentity]

theorem principal_eq (s : Session) {settings : VerificationSettings} {renewable : Bool}
    (hidentity : s.identity = .openId settings renewable) :
    s.principal = ask (I := World) (.look s.number) fun x =>
      done (x.1.credential.bind Credential.principal) := by
  rw [Session.principal, hidentity]
  rfl

theorem cached_quiet (r : Request) : (s.cached r).Only s.Quiet := by
  rw [cached_eq]
  refine ⟨⟨rfl, Act.noConfusion⟩, fun x => ?_⟩
  dsimp only
  split
  · trivial
  · split
    · exact ⟨⟨rfl, Act.noConfusion⟩, fun _ => trivial⟩
    · trivial

theorem proof_quiet (thumbprint : String) (r : Request) : (s.proof thumbprint r).Only s.Quiet := by
  refine (s.proof_only thumbprint r).mono ?_
  rintro op (rfl | ⟨count, rfl⟩)
  · exact quiet_of_external trivial
  · exact quiet_of_external trivial

theorem principal_quiet : s.principal.Only s.Quiet := by
  unfold Session.principal
  cases s.identity with
  | anonymous => trivial
  | openId settings renewable => exact ⟨⟨rfl, Act.noConfusion⟩, fun _ => trivial⟩

/-- Every call abides by the session, if its authenticator does. -/
theorem Query.program_abides {q : Query}
    (h : ∀ a r names, q = .authenticate a r names → s.Abides (a.acquire s r names)) :
    s.Abides (q.program s) := by
  cases q with
  | credential name => exact .credential name
  | authenticate a r names => exact .authenticate (h a r names rfl)
  | cached r => exact .of_quiet (cached_quiet r)
  | proof thumbprint r => exact .of_quiet (proof_quiet thumbprint r)
  | principal => exact .of_quiet principal_quiet

theorem fills_of_establishes {id : SessionId} {op : Act} (h : establishes id op = true) :
    op.fills id = true := by
  cases op with
  | establish i settings held => exact h
  | _ => cases h

theorem Fills.establishes_eq_false {t : Transcript World} {op : Act} (h : Fills s t op) :
    establishes s.number op = false := by
  cases h with
  | _ => rfl

variable {ι : Type} [DecidableEq ι]

/-- A run of calls on one session, with authenticators that abide by it. -/
structure Service (s : Session) (queries : ι → Query) (st : Store) (l : List (Event ι)) : Prop where
  runs : ∃ d, Runs ⟨st, fun i => (queries i).program s⟩ l d
  abides : ∀ i a r names, queries i = .authenticate a r names → s.Abides (a.acquire s r names)

/-! ## The slot of a session without a source of tokens -/

/-- Whether no refresh of the session has ended in some steps. -/
def Unsettled (s : Session) (l : List (Event ι)) : Prop := ∀ e ∈ l, settles s.number e.act = false

namespace Service

variable {queries : ι → Query} {st : Store} {l l₁ l₂ : List (Event ι)} {e : Event ι}

theorem of_append (h : Service s queries st (l₁ ++ l₂)) : Service s queries st l₁ := by
  rcases h.runs with ⟨d, hruns⟩
  rcases hruns.of_append with ⟨m, hm, _⟩
  exact ⟨⟨m, hm⟩, h.abides⟩

theorem admits (h : Service s queries st (l₁ ++ e :: l₂)) :
    e.act.Admits (storeAfter st l₁) e.time e.answer := by
  rcases h.runs with ⟨d, hruns⟩
  exact hruns.event.2.2

/-- A step neither clears the slot nor sets the session up anew. -/
theorem spares (h : Service s queries st (l₁ ++ e :: l₂)) :
    e.act ≠ .forget s.number ∧ establishes s.number e.act = false := by
  rcases h.runs with ⟨d, hruns⟩
  rcases hruns.event with ⟨⟨next, hwalk⟩, _⟩
  have habides := Query.program_abides (h.abides e.who)
  refine ⟨(habides.keeps.walk hwalk).2.1, ?_⟩
  rw [Bool.eq_false_iff]
  intro hnew
  have hfill := habides.uses.fills hwalk (fills_of_establishes hnew)
  cases hfill.establishes_eq_false.symm.trans hnew

/-- A step that ends a refresh belongs to a call that was shown that there is no live credential. -/
theorem settled (h : Service s queries st (l₁ ++ e :: l₂)) (hsettles : settles s.number e.act = true) :
    ∃ m₁ f m₂ x u own, l₁ = m₁ ++ f :: m₂ ∧ (⟨f.act, f.answer⟩ : Entry World) = ⟨.look s.number, x⟩ ∧
      Missed x ∧ Walk s.refresh u (.done own) ∧ e.act = .settle s.number (outcomeText own) := by
  rcases h.runs with ⟨d, hruns⟩
  rcases hruns.event with ⟨⟨next, hwalk⟩, _⟩
  have huses := (Query.program_abides (h.abides e.who)).uses
  rcases e with ⟨who, act, answer, time⟩
  dsimp only at hwalk hsettles huses ⊢
  cases act with
  | settle i outcome =>
      have hi : i = s.number := by simpa [settles] using hsettles
      subst hi
      rcases huses.settled hwalk with ⟨before, x, u, own, hpart, hmissed, ⟨u', hend⟩, rfl⟩
      rcases partOf_eq_append_cons hpart with ⟨m₁, f, m₂, rfl, _, _, hentry, _⟩
      exact ⟨m₁, f, m₂, x, u', own, rfl, hentry.symm, hmissed, hend, rfl⟩
  | _ => cases hsettles

/-- As long as no refresh has ended, the slot is as it was. -/
theorem slot_of_unsettled (h : Service s queries st l) (hquiet : s.Unsettled l) :
    ((storeAfter st l).vault s.number).slot = (st.vault s.number).slot := by
  induction l using List.reverseRecOn with
  | nil => rfl
  | append_singleton l e ih =>
      rcases h.spares with ⟨hclear, hnew⟩
      have hwrite := writes_eq_false_of_ne (hquiet e (by simp)) hclear
      rw [storeAfter_append, storeAfter_cons, storeAfter_nil, slot_onStore _ hwrite hnew]
      exact ih h.of_append fun x hx => hquiet x (List.mem_append_left _ hx)

/-- Without a source of tokens the first refresh that ends empties the slot, for good. -/
theorem empty_of_settled (h : Service s queries st l) (hsource : s.refresh = done (.ok none))
    (hsettled : ¬ s.Unsettled l) : ((storeAfter st l).vault s.number).slot.credential = none := by
  induction l using List.reverseRecOn with
  | nil => exact absurd (fun e he => absurd he List.not_mem_nil) hsettled
  | append_singleton l e ih =>
      rw [storeAfter_append, storeAfter_cons, storeAfter_nil]
      by_cases he : settles s.number e.act = true
      · rcases h.settled he with ⟨_, _, _, _, _, own, _, _, _, hend, hact⟩
        rw [hsource] at hend
        cases (walk_done_iff.1 hend).2
        rw [hact]
        simp [Act.onStore, SlotState.settled, outcomeText, Except.mapError]
      · have hsettles : settles s.number e.act = false := Bool.eq_false_iff.2 he
        rcases h.spares with ⟨hclear, hnew⟩
        rw [slot_onStore _ (writes_eq_false_of_ne hsettles hclear) hnew]
        refine ih h.of_append fun hquiet => hsettled ?_
        intro x hx
        rcases List.mem_append.1 hx with hx' | hx'
        · exact hquiet x hx'
        · rw [List.mem_singleton.1 hx', hsettles]

/-- A look shows the slot as it was at first, or an empty one if a refresh has ended. -/
theorem look (h : Service s queries st (l₁ ++ e :: l₂)) (hsource : s.refresh = done (.ok none)) {x : Look}
    (hlook : (⟨e.act, e.answer⟩ : Entry World) = ⟨.look s.number, x⟩) :
    x.2 = e.time ∧ (s.Unsettled l₁ → x.1 = (st.vault s.number).slot) ∧
      (¬ s.Unsettled l₁ → x.1.credential = none) := by
  have hadmits := h.admits
  rcases e with ⟨who, act, answer, time⟩
  cases hlook
  have hx : answer = (((storeAfter st l₁).vault s.number).slot, time) := hadmits
  subst hx
  exact ⟨rfl, h.of_append.slot_of_unsettled, h.of_append.empty_of_settled hsource⟩

/-- No refresh ends before a look has found the credential expired. -/
theorem expired_of_settled {c : Credential} (h : Service s queries st l)
    (hsource : s.refresh = done (.ok none)) (hslot : (st.vault s.number).slot.credential = some c)
    (hsettled : ¬ s.Unsettled l) : ∃ f ∈ l, f.act = .look s.number ∧ c.isExpiredAt f.time = true := by
  induction l using List.reverseRecOn with
  | nil => exact absurd (fun e he => absurd he List.not_mem_nil) hsettled
  | append_singleton l e ih =>
      by_cases hquiet : s.Unsettled l
      · -- the first refresh that ends belongs to a call that looked before
        have he : settles s.number e.act = true := by
          rw [← Bool.not_eq_false]
          intro hno
          refine hsettled ?_
          intro y hy
          rcases List.mem_append.1 hy with hy' | hy'
          · exact hquiet y hy'
          · rw [List.mem_singleton.1 hy', hno]
        rcases h.settled he with ⟨m₁, f, m₂, x, _, _, rfl, hlook, hmissed, _, _⟩
        have hbefore : s.Unsettled m₁ := fun y hy => hquiet y (List.mem_append_left _ hy)
        rcases h.of_append.look hsource hlook with ⟨htime, hshown, _⟩
        have hexpired : c.isExpiredAt f.time = true := by
          rw [Missed, hshown hbefore, hslot, Credential.liveAt_some, htime] at hmissed
          by_contra hlive
          rw [if_neg hlive] at hmissed
          cases hmissed
        refine ⟨f, by simp, ?_, hexpired⟩
        rw [Sigma.mk.injEq] at hlook
        exact hlook.1
      · rcases ih h.of_append hquiet with ⟨f, hf, hlooked⟩
        exact ⟨f, List.mem_append_left _ hf, hlooked⟩

/-- A call that gets no credential has ended a refresh, or has queued while one ended. -/
theorem settled_of_none {i : ι} (h : Service s queries st l)
    (hsource : s.refresh = done (.ok none))
    (hwalk : Walk (getOrRefresh s.number s.refresh) (partOf i l) (done (.ok none))) :
    ¬ s.Unsettled l := by
  intro hquiet
  obtain ⟨v, hv, hends⟩ : ∃ v, v = .ok none ∧ Ends s.number s.refresh (partOf i l) v :=
    ⟨_, rfl, ends_of_walk hwalk⟩
  generalize hpart : partOf i l = t at hends
  cases hends with
  | hit _ => cases hv
  | @yield x y _ hgen =>
      -- both looks show the slot as it was at first
      rcases partOf_eq_cons hpart with ⟨m₁, f, m₂, rfl, _, _, hfirst, hrest⟩
      rcases partOf_eq_append_cons (t := [⟨.acquire s.number, ()⟩]) hrest with
        ⟨n₁, g, n₂, rfl, _, _, hsecond, _⟩
      have hx := (h.look hsource hfirst.symm).2.1 fun e he => hquiet e (List.mem_append_left _ he)
      have hshape : m₁ ++ f :: (n₁ ++ g :: n₂) = (m₁ ++ f :: n₁) ++ g :: n₂ := by simp
      rw [hshape] at h hquiet
      have hy := (h.look hsource hsecond.symm).2.1 fun e he => hquiet e (List.mem_append_left _ he)
      rw [hx, hy] at hgen
      exact hgen rfl
  | @leave x y u outcome now _ _ _ =>
      have hwritten : (⟨.settle s.number (outcomeText outcome), now⟩ : Entry World) ∈ partOf i l := by
        rw [hpart]
        simp
      rcases mem_partOf hwritten with ⟨m₁, e, m₂, rfl, _, hentry⟩
      have hact : e.act = .settle s.number (outcomeText outcome) := by
        rw [Sigma.mk.injEq] at hentry
        exact hentry.1.symm
      have hsettles := hquiet e (by simp)
      rw [hact] at hsettles
      simp [settles] at hsettles

end Service

/-! ## Whom the session acts as -/

/-- What a session without a source of tokens answers for its principal in a run: its token names `named`,
and its credential lives up to the second `bound`. -/
structure Principals (s : Session) (named : Option Url) (bound : Int) (queries : ι → Query)
    (l : List (Event ι)) : Prop where
  /-- A call looks at the slot once, and finds who the token names as long as no refresh has ended, and
  nobody from then on. -/
  answered : ∀ i found, queries i = .principal → Walk s.principal (partOf i l) (done found) →
    ∃ l₁ e l₂, l = l₁ ++ e :: l₂ ∧ e.who = i ∧ e.act = .look s.number ∧
      (s.Unsettled l₁ → found = named) ∧ (¬ s.Unsettled l₁ → found = none)
  /-- Before a refresh ends, a call has looked at or behind the bound. -/
  caused : ∀ l₁ l₂, l = l₁ ++ l₂ → ¬ s.Unsettled l₁ →
    ∃ f ∈ l₁, f.act = .look s.number ∧ bound ≤ f.time.seconds
  /-- As long as every look is before the bound, a call finds who the token names. -/
  kept : (∀ f ∈ l, f.act = .look s.number → f.time.seconds < bound) →
    ∀ i found, queries i = .principal → Walk s.principal (partOf i l) (done found) → found = named
  /-- A call that begins behind one that got no credential finds nobody. -/
  lost : ∀ l₁ l₂ i j found, l = l₁ ++ l₂ → queries i = .credential IdToken.name →
    Walk (s.credential IdToken.name) (partOf i l₁) (done (.ok none)) →
    queries j = .principal → partOf j l₁ = [] → Walk s.principal (partOf j l) (done found) → found = none

theorem principal_of_walk {settings : VerificationSettings} {renewable : Bool} {t : Transcript World}
    {found : Option Url} (hidentity : s.identity = .openId settings renewable)
    (hwalk : Walk s.principal t (done found)) :
    ∃ x, t = [⟨.look s.number, x⟩] ∧ found = x.1.credential.bind Credential.principal := by
  rw [principal_eq s hidentity] at hwalk
  rcases walk_ask_iff.1 hwalk with ⟨_, hq⟩ | ⟨x, t', rfl, hend⟩
  · cases hq
  · rcases walk_done_iff.1 hend with ⟨rfl, hfound⟩
    exact ⟨x, rfl, done.inj hfound⟩

namespace Service

variable {queries : ι → Query} {st : Store} {l l₁ l₂ : List (Event ι)} {e : Event ι} {c : Credential}
  {settings : VerificationSettings} {bound : Int}

/-- A call for the principal answers by what the slot holds at its look. -/
theorem principal_shown {found : Option Url} (h : Service s queries st (l₁ ++ e :: l₂))
    (hidentity : s.identity = .openId settings false)
    (hslot : (st.vault s.number).slot.credential = some c)
    (hwalk : Walk s.principal [⟨e.act, e.answer⟩] (done found)) :
    e.act = .look s.number ∧ (s.Unsettled l₁ → found = c.principal) ∧
      (¬ s.Unsettled l₁ → found = none) := by
  rcases principal_of_walk hidentity hwalk with ⟨x, hentry, rfl⟩
  have hlook : (⟨e.act, e.answer⟩ : Entry World) = ⟨.look s.number, x⟩ := (List.cons.inj hentry).1
  rcases h.look (refresh_of_sourceless hidentity) hlook with ⟨_, hfirst, hlater⟩
  refine ⟨congrArg Sigma.fst hlook, ?_, ?_⟩
  · intro hquiet
    rw [hfirst hquiet, hslot, Option.bind_some]
  · intro hsettled
    rw [hlater hsettled, Option.bind_none]

/-- The principal of such a session is that of the credential in its slot, until a refresh has ended. -/
theorem principals (h : Service s queries st l) (hidentity : s.identity = .openId settings false)
    (hslot : (st.vault s.number).slot.credential = some c)
    (hlive : ∀ now, c.isExpiredAt now = false ↔ now.seconds < bound) :
    Principals s c.principal bound queries l := by
  have hsource := refresh_of_sourceless hidentity
  have hcaused : ∀ l₁ l₂, l = l₁ ++ l₂ → ¬ s.Unsettled l₁ →
      ∃ f ∈ l₁, f.act = .look s.number ∧ bound ≤ f.time.seconds := by
    rintro l₁ l₂ rfl hsettled
    rcases h.of_append.expired_of_settled hsource hslot hsettled with ⟨f, hf, hact, hexpired⟩
    refine ⟨f, hf, hact, ?_⟩
    rw [← not_lt, ← hlive, hexpired]
    exact Bool.noConfusion
  -- a call has no step but its look
  have hanswered : ∀ l₀ l' i found, l = l₀ ++ l' → partOf i l₀ = [] →
      Walk s.principal (partOf i l) (done found) →
      ∃ l₁ e l₂, l' = l₁ ++ e :: l₂ ∧ e.who = i ∧ e.act = .look s.number ∧
        (s.Unsettled (l₀ ++ l₁) → found = c.principal) ∧ (¬ s.Unsettled (l₀ ++ l₁) → found = none) := by
    rintro l₀ l' i found rfl hnil hwalk
    rw [partOf_append, hnil, List.nil_append] at hwalk
    rcases principal_of_walk hidentity hwalk with ⟨x, hpart, _⟩
    rcases partOf_eq_cons hpart with ⟨l₁, e, l₂, rfl, _, hwho, hentry, _⟩
    rw [hpart, hentry] at hwalk
    rw [← List.append_assoc] at h
    exact ⟨l₁, e, l₂, rfl, hwho, h.principal_shown hidentity hslot hwalk⟩
  refine ⟨?_, hcaused, ?_, ?_⟩
  · intro i found _ hwalk
    exact hanswered [] l i found rfl rfl hwalk
  · intro hearly i found _ hwalk
    rcases hanswered [] l i found rfl rfl hwalk with ⟨l₁, e, l₂, rfl, _, _, hfound, _⟩
    refine hfound ?_
    by_contra hsettled
    rcases hcaused l₁ (e :: l₂) rfl hsettled with ⟨f, hf, hact, hlate⟩
    have hbefore := hearly f (List.mem_append_left _ hf) hact
    omega
  · rintro l₁ l₂ i j found rfl _ hnone _ hbegins hwalk
    rw [credential_of_openId hidentity] at hnone
    have hsettled := h.of_append.settled_of_none hsource hnone
    rcases hanswered l₁ l₂ j found rfl hbegins hwalk with ⟨n₁, e, n₂, rfl, _, _, _, hfound⟩
    exact hfound fun hquiet => hsettled fun x hx => hquiet x (List.mem_append_left _ hx)

end Service

/-- A session that was begun with a token answers with the principal of that token, until its first call
that finds the token expired has ended a refresh with nothing to refresh with. -/
theorem principals_of_token {number : SessionId} {cache : CacheSettings}
    {settings : VerificationSettings} {token : String} {u : Transcript World} {queries : ι → Query}
    {st : Store} {l : List (Event ι)} (hbegun : Walk (ofToken number cache settings token) u (done (.ok s)))
    (h : Service s queries (storeAfter st (steps u)) l) :
    ∃ exp, Token.expiration? token = some exp ∧
      Principals s (Token.principal? token) (exp + settings.grace) queries l := by
  rcases begun_of_walk hbegun with ⟨u', v, rfl, hverify, rfl⟩
  rcases IdToken.passed_of_walk hverify with ⟨_, _, exp, _, hpassed⟩
  have hslot : ((storeAfter st (steps (u' ++ [⟨.establish number cache (some v.credential), ()⟩]))).vault
      number).slot.credential = some v.credential := by
    rw [steps_append, storeAfter_append]
    simp [steps, Act.onStore]
  rw [← IdToken.principal_of_walk hverify]
  exact ⟨exp, hpassed.terms.claimed, h.principals rfl hslot hpassed.terms.live_iff⟩

/-! ### A principal that disappears -/

namespace Vanishing

/-- The session of the token `webbed`. -/
def holder : Session := ⟨0, IdToken.webbedVerified.session, .openId {} false⟩

def early : Instant := ⟨0, 0⟩

/-- The token has expired. -/
def late : Instant := ⟨4102444800, 0⟩

theorem accepted_webbed : Walk (IdToken.verify {} IdToken.webbed) [⟨.clock, early⟩]
    (done (.ok IdToken.webbedVerified)) :=
  IdToken.walk_webbed (by decide)

def held : Credential := IdToken.webbedVerified.credential

/-- The token has been accepted, and the session has been set up. -/
def beginning : Transcript World := [⟨.clock, early⟩, ⟨.establish 0 {} (some held), ()⟩]

theorem begun_holder : Walk (ofToken 0 {} {} IdToken.webbed) beginning (done (.ok holder)) :=
  walk_ofToken 0 {} accepted_webbed

inductive Caller where
  | first
  | second
  | third
  | fourth
deriving DecidableEq

/-- Asks for a resource. -/
def asking : Request := .get { scheme := "urn", path := "r" }

/-- The first call asks for the principal, the second one presents the token, the third one asks for the
credential, and the fourth one for the principal again. -/
def quartet : Caller → Query
  | .first => .principal
  | .second => .authenticate (IdToken.authenticator false) asking (.ofList [])
  | .third => .credential IdToken.name
  | .fourth => .principal

def full : SlotState := { credential := some held }

def empty : SlotState := { generation := 1 }

/-- Two calls end before the expiration, and the third one refreshes behind it. -/
def before : List (Event Caller) :=
  [⟨.first, .look 0, (full, early), early⟩, ⟨.second, .look 0, (full, early), early⟩,
    ⟨.second, .retain 0 (CredentialCache.key asking.uri) held, (), early⟩,
    ⟨.third, .look 0, (full, late), late⟩, ⟨.third, .acquire 0, (), late⟩,
    ⟨.third, .look 0, (full, late), late⟩, ⟨.third, .settle 0 (.ok none), late, late⟩,
    ⟨.third, .release 0, (), late⟩]

/-- The fourth call looks at the slot. -/
def after : List (Event Caller) := [⟨.fourth, .look 0, (empty, late), late⟩]

theorem walk_first : Walk holder.principal (partOf .first (before ++ after)) (done held.principal) := by
  rw [principal_eq holder rfl]
  exact .answered (.here _)

theorem walk_second : Walk (holder.authenticate (IdToken.authenticator false) asking (.ofList []))
    (partOf .second (before ++ after)) (done (.ok (some held))) := by
  have hlive : Credential.liveAt early full.credential = some held := rfl
  have hheld : Walk (holder.credential IdToken.name) [⟨.look 0, (full, early)⟩]
      (done (.ok (some held))) := by
    rw [credential_of_openId rfl, getOrRefresh_eq]
    refine .answered ?_
    dsimp only
    rw [hlive]
    exact .here _
  rw [authenticate_eq]
  exact ((hheld.bind _).bind _).append (.answered (.here _))

/-- The third call finds the credential expired, and has nothing to refresh with. -/
theorem walk_third : Walk (holder.credential IdToken.name) (partOf .third before)
    (done (.ok none)) := by
  have hmissed : Credential.liveAt late full.credential = none := rfl
  rw [credential_of_openId rfl, getOrRefresh_eq]
  refine .answered ?_
  dsimp only
  rw [hmissed]
  exact .answered (.answered (.answered (.answered (.here _))))

theorem walk_fourth : Walk holder.principal (partOf .fourth (before ++ after)) (done none) := by
  rw [principal_eq holder rfl]
  exact .answered (.here _)

theorem service_quartet :
    Service holder quartet (storeAfter {} (steps beginning)) (before ++ after) where
  runs := by
    refine exists_runs ?_ ?_
    · exact ⟨rfl, rfl, rfl, rfl, rfl, trivial, rfl, rfl, rfl, trivial, rfl, rfl, rfl, rfl, rfl, trivial,
        rfl, rfl, trivial⟩
    · intro i
      match i with
      | .first => exact ⟨_, walk_first⟩
      | .second => exact ⟨_, walk_second⟩
      | .third => exact ⟨_, walk_third⟩
      | .fourth => exact ⟨_, walk_fourth⟩
  abides := by
    intro i a r names h
    match i with
    | .first => cases h
    | .second =>
        cases h
        exact .presenting false asking (.ofList [])
    | .third => cases h
    | .fourth => cases h

/-- The token names the identity on the web `urn:i|a`. -/
theorem principal_webbed :
    Token.principal? IdToken.webbed = some { scheme := "urn", path := "i|a" } := by
  have hparse : Url.parse "urn:i|a" = .ok { scheme := "urn", path := "i|a" } := by cbv
  calc
    Token.principal? IdToken.webbed = IdToken.principalOf IdToken.webbedIdentity :=
      (IdToken.principal_of_walk accepted_webbed).symm
    _ = (Url.parse "urn:i|a").toOption.or (Url.parse "b").toOption := rfl
    _ = some { scheme := "urn", path := "i|a" } := by rw [hparse]; rfl

end Vanishing

open Vanishing in
theorem principals_of_token_webbed :
    Walk (ofToken 0 {} {} IdToken.webbed) beginning (done (.ok holder)) ∧
      Service holder quartet (storeAfter {} (steps beginning)) (before ++ after) ∧
      ∃ exp, Token.expiration? IdToken.webbed = some exp ∧
        Principals holder (Token.principal? IdToken.webbed) (exp + 0) quartet (before ++ after) :=
  ⟨begun_holder, service_quartet, principals_of_token begun_holder service_quartet⟩

open Vanishing in
/-- The session acts as whom its token names, until a call finds the token expired: from then on it acts
as nobody. -/
theorem principal_lost :
    Walk (ofToken 0 {} {} IdToken.webbed) beginning (done (.ok holder)) ∧
      Service holder quartet (storeAfter {} (steps beginning)) (before ++ after) ∧
      Token.principal? IdToken.webbed = some { scheme := "urn", path := "i|a" } ∧
      Walk holder.principal (partOf .first (before ++ after)) (done (Token.principal? IdToken.webbed)) ∧
      Walk (holder.credential IdToken.name) (partOf .third before) (done (.ok none)) ∧
      Walk holder.principal (partOf .fourth (before ++ after)) (done none) := by
  refine ⟨begun_holder, service_quartet, principal_webbed, ?_, walk_third, walk_fourth⟩
  rw [← IdToken.principal_of_walk accepted_webbed]
  exact walk_first

end Session
end Countersign
