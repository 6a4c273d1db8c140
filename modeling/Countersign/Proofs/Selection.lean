import Countersign.Proofs.FailedUpgrade

/-!
# Selection — which authenticator runs, and what a negotiation adds to it

Of the challenges of a refusal those count whose scheme is registered and supported by the session and
which the provider accepts; without one the bare challenge of the fallback may count.  Here they are
collected without the program, the one that runs is singled out, and the negotiation is described by the
run of its authenticator alone.

* `Registry.Eligible`, `Registry.Answers`, `Registry.Contends` — the challenges that count;
* `Registry.Foremost` — the earliest of greatest priority;
* `Registry.Conducts` — a negotiation is the run of one authenticator, with its credential stored;
* `Registry.negotiation` — every negotiation is of this kind, or there is nothing to run.
-/

namespace Countersign

open Program Text

namespace Registry

variable {r : Registry} {s : Session} {cs : List Challenge} {c : Challenge} {a : Authenticator}
  {as : List Authenticator} {E E' : List (Challenge × Authenticator)}

/-! ## The challenges that count -/

/-- The scheme of a challenge is registered and supported by the session, in any letter case, and its
provider accepts the challenge with an authenticator. -/
structure Eligible (r : Registry) (s : Session) (c : Challenge) (a : Authenticator) : Prop where
  accepted : ∃ p, (lower c.scheme, p) ∈ r.providers.entries ∧ p.authenticator c = .ok a
  supported : sameLetters c.scheme uma = true ∨ ∃ x ∈ s.schemes, sameLetters x c.scheme = true

theorem answer?_eq_some : r.answer? s c = some a ↔ r.Eligible s c a := by
  have hsupports : s.supports c.scheme = true ↔
      sameLetters c.scheme uma = true ∨ ∃ x ∈ s.schemes, sameLetters x c.scheme = true := by
    rw [Session.supports, Bool.or_eq_true, List.any_eq_true]
    exact Iff.rfl
  have haccepts : ∀ p : Provider, (p.authenticator c).toOption = some a ↔ p.authenticator c = .ok a := by
    intro p
    cases p.authenticator c with
    | error e => simp [Except.toOption]
    | ok b => simp [Except.toOption]
  constructor
  · intro h
    rcases Option.bind_eq_some_iff.1 h with ⟨p, hp, hrest⟩
    split at hrest
    · rename_i hsupported
      exact ⟨⟨p, Table.find?_eq_some.1 hp, (haccepts p).1 hrest⟩, hsupports.1 hsupported⟩
    · cases hrest
  · rintro ⟨⟨p, hp, hok⟩, hsupported⟩
    refine Option.bind_eq_some_iff.2 ⟨p, Table.find?_eq_some.2 hp, ?_⟩
    rw [if_pos (hsupports.2 hsupported)]
    exact (haccepts p).2 hok

theorem answer?_eq_none : r.answer? s c = none ↔ ∀ a, ¬ r.Eligible s c a := by
  rw [Option.eq_none_iff_forall_not_mem]
  exact forall_congr' fun a => not_congr answer?_eq_some

/-- The challenges of a list that count, in their order, each with its authenticator. -/
inductive Answers (r : Registry) (s : Session) :
    List Challenge → List (Challenge × Authenticator) → Prop where
  | done : Answers r s [] []
  | taken {c : Challenge} {a : Authenticator} {cs : List Challenge}
      {E : List (Challenge × Authenticator)} (h : r.Eligible s c a) (hrest : Answers r s cs E) :
      Answers r s (c :: cs) ((c, a) :: E)
  | passed {c : Challenge} {cs : List Challenge} {E : List (Challenge × Authenticator)}
      (h : ∀ a, ¬ r.Eligible s c a) (hrest : Answers r s cs E) : Answers r s (c :: cs) E

theorem exists_answers (r : Registry) (s : Session) (cs : List Challenge) : ∃ E, r.Answers s cs E := by
  induction cs with
  | nil => exact ⟨[], .done⟩
  | cons c cs ih =>
      rcases ih with ⟨E, hE⟩
      by_cases hc : ∃ a, r.Eligible s c a
      · rcases hc with ⟨a, ha⟩
        exact ⟨(c, a) :: E, .taken ha hE⟩
      · exact ⟨E, .passed (fun a ha => hc ⟨a, ha⟩) hE⟩

theorem Eligible.unique {b : Authenticator} (h : r.Eligible s c a) (h' : r.Eligible s c b) : a = b := by
  have hsame := answer?_eq_some.2 h
  rw [answer?_eq_some.2 h'] at hsame
  exact (Option.some.inj hsame).symm

theorem Answers.unique (h : r.Answers s cs E) (h' : r.Answers s cs E') : E = E' := by
  induction h generalizing E' with
  | done =>
      cases h'
      rfl
  | taken ha _ ih =>
      cases h' with
      | taken ha' hrest' => rw [ha.unique ha', ih hrest']
      | passed hno _ => exact absurd ha (hno _)
  | passed hno _ ih =>
      cases h' with
      | taken ha' _ => exact absurd ha' (hno _)
      | passed _ hrest' => exact ih hrest'

theorem Answers.candidates_eq (h : r.Answers s cs E) : r.candidates s cs = E.map Prod.snd := by
  induction h with
  | done => rfl
  | taken ha _ ih =>
      rw [candidates, List.filterMap_cons_some (answer?_eq_some.2 ha), List.map_cons, ← ih]
      rfl
  | passed hno _ ih =>
      rw [candidates, List.filterMap_cons_none (answer?_eq_none.2 hno)]
      exact ih

/-- What a negotiation chooses from: the challenges that count, and if none does the bare challenge of the
fallback, if that counts. -/
inductive Contends (r : Registry) (s : Session) (cs : List Challenge) :
    List (Challenge × Authenticator) → Prop where
  | challenged {E : List (Challenge × Authenticator)} (h : r.Answers s cs E) (hne : E ≠ []) :
      Contends r s cs E
  | fallback {scheme : String} {a : Authenticator} (h : r.Answers s cs [])
      (hscheme : r.fallback = some scheme) (ha : r.Eligible s ⟨scheme, .empty⟩ a) :
      Contends r s cs [(⟨scheme, .empty⟩, a)]
  | nothing (h : r.Answers s cs [])
      (hno : ∀ scheme a, r.fallback = some scheme → ¬ r.Eligible s ⟨scheme, .empty⟩ a) :
      Contends r s cs []

theorem exists_contends (r : Registry) (s : Session) (cs : List Challenge) :
    ∃ E, r.Contends s cs E := by
  rcases exists_answers r s cs with ⟨E, hE⟩
  by_cases hne : E = []
  · subst hne
    by_cases hfallback : ∃ scheme a, r.fallback = some scheme ∧ r.Eligible s ⟨scheme, .empty⟩ a
    · rcases hfallback with ⟨scheme, a, hscheme, ha⟩
      exact ⟨_, .fallback hE hscheme ha⟩
    · exact ⟨[], .nothing hE fun scheme a hscheme ha => hfallback ⟨scheme, a, hscheme, ha⟩⟩
  · exact ⟨E, .challenged hE hne⟩

theorem Contends.unique (h : r.Contends s cs E) (h' : r.Contends s cs E') : E = E' := by
  cases h with
  | challenged hE hne =>
      cases h' with
      | challenged hE' _ => exact hE.unique hE'
      | fallback hnone _ _ => exact absurd (hE.unique hnone) hne
      | nothing hnone _ => exact absurd (hE.unique hnone) hne
  | fallback hnone hscheme ha =>
      cases h' with
      | challenged hE hne => exact absurd (hE.unique hnone) hne
      | fallback _ hscheme' ha' =>
          rw [hscheme] at hscheme'
          cases hscheme'
          rw [ha.unique ha']
      | nothing _ hno => exact absurd ha (hno _ _ hscheme)
  | nothing hnone hno =>
      cases h' with
      | challenged hE hne => exact absurd (hE.unique hnone) hne
      | fallback _ hscheme ha => exact absurd ha (hno _ _ hscheme)
      | nothing _ _ => rfl

/-! ## The one that runs -/

theorem best_eq_none : best as = none ↔ as = [] := by
  cases as with
  | nil => simp [best]
  | cons a as =>
      unfold best
      split
      · simp
      · split <;> simp

/-- The best of some authenticators is preferred to those before it, and those behind it are not
preferred to it. -/
theorem best_split (h : best as = some a) :
    ∃ as₁ as₂, as = as₁ ++ a :: as₂ ∧ (∀ b ∈ as₁, b.priority < a.priority) ∧
      ∀ b ∈ as₂, b.priority ≤ a.priority := by
  induction as generalizing a with
  | nil => cases h
  | cons b as ih =>
      unfold best at h
      cases hbest : best as with
      | none =>
          rw [hbest] at h
          cases h
          obtain rfl := best_eq_none.1 hbest
          exact ⟨[], [], rfl, by simp, by simp⟩
      | some d =>
          rcases ih hbest with ⟨as₁, as₂, rfl, hbefore, hbehind⟩
          simp only [hbest] at h
          split at h
          · -- a later one is preferred
            rename_i hlt
            cases h
            refine ⟨b :: as₁, as₂, rfl, ?_, hbehind⟩
            intro x hx
            rcases List.mem_cons.1 hx with rfl | hx
            · exact hlt
            · exact hbefore x hx
          · rename_i hle
            cases h
            refine ⟨[], _, rfl, by simp, ?_⟩
            intro x hx
            rcases List.mem_append.1 hx with hx | hx
            · exact Int.le_trans (Int.le_of_lt (hbefore x hx)) (Int.not_lt.1 hle)
            · rcases List.mem_cons.1 hx with rfl | hx
              · exact Int.not_lt.1 hle
              · exact Int.le_trans (hbehind x hx) (Int.not_lt.1 hle)

/-- The earliest challenge among those of greatest priority. -/
def Foremost (E : List (Challenge × Authenticator)) (c : Challenge) (a : Authenticator) : Prop :=
  ∃ E₁ E₂, E = E₁ ++ (c, a) :: E₂ ∧ (∀ x ∈ E₁, x.2.priority < a.priority) ∧
    ∀ x ∈ E₂, x.2.priority ≤ a.priority

/-- The registry selects the foremost of what a negotiation chooses from, if there is anything. -/
theorem Contends.select_eq (h : r.Contends s cs E) :
    (E = [] ∧ r.select s cs = none) ∨ ∃ c a, Foremost E c a ∧ r.select s cs = some a := by
  have hempty : r.Answers s cs [] → r.select s cs = r.fallback? s := by
    intro hnone
    rw [select, hnone.candidates_eq]
    rfl
  cases h with
  | challenged hE hne =>
      have hselect : r.select s cs = best (E.map Prod.snd) := by
        rw [select, hE.candidates_eq]
        cases E with
        | nil => exact absurd rfl hne
        | cons x E => rfl
      cases hbest : best (E.map Prod.snd) with
      | none => exact absurd (List.map_eq_nil_iff.1 (best_eq_none.1 hbest)) hne
      | some a =>
          right
          rcases best_split hbest with ⟨as₁, as₂, hsplit, hbefore, hbehind⟩
          rcases List.map_eq_append_iff.1 hsplit with ⟨E₁, E', rfl, rfl, hE'⟩
          rcases List.map_eq_cons_iff.1 hE' with ⟨⟨c, b⟩, E₂, rfl, hb, rfl⟩
          obtain rfl : b = a := hb
          refine ⟨c, b, ⟨E₁, E₂, rfl, ?_, ?_⟩, hselect.trans hbest⟩
          · exact fun x hx => hbefore x.2 (List.mem_map_of_mem hx)
          · exact fun x hx => hbehind x.2 (List.mem_map_of_mem hx)
  | @fallback scheme a hnone hscheme ha =>
      right
      refine ⟨_, a, ⟨[], [], rfl, by simp, by simp⟩, ?_⟩
      rw [hempty hnone, fallback?, hscheme]
      exact answer?_eq_some.2 ha
  | nothing hnone hno =>
      left
      refine ⟨rfl, ?_⟩
      rw [hempty hnone, fallback?]
      cases hscheme : r.fallback with
      | none => rfl
      | some scheme => exact answer?_eq_none.2 fun a => hno scheme a hscheme

/-! ## The run of the authenticator -/

variable {request : Request} {names : Names} {u : Transcript World}

/-- The words of the algorithm parameters of all challenges, those that do not count included. -/
def Advertised (cs : List Challenge) (names : Names) : Prop :=
  ∀ w, w ∈ names ↔ ∃ c ∈ cs, ∃ v, c.parameter algorithmsParameter = some v ∧ w ∈ words v

theorem advertised_algorithms (cs : List Challenge) : Advertised cs (algorithms cs) := by
  intro w
  rw [algorithms, Names.mem_ofList, List.mem_flatMap]
  refine exists_congr fun c => and_congr_right fun _ => ?_
  cases c.parameter algorithmsParameter with
  | none => simp
  | some v => simp

/-- A negotiation asks what one authenticator asks, for the request and with the algorithms, and no other
runs.  If that returns a credential, the credential is stored under the key of the request and returned;
if it fails, the negotiation fails with its error and asks nothing more. -/
structure Conducts (r : Registry) (s : Session) (request : Request) (cs : List Challenge)
    (a : Authenticator) (names : Names) : Prop where
  asks : ∀ u op next, Walk (r.negotiate s request cs) u (ask (I := World) op next) →
    (∃ rest, Walk (a.acquire s request names) u (ask (I := World) op rest)) ∨
      ∃ cred, Walk (a.acquire s request names) u (done (.ok cred)) ∧
        op = .retain s.number (CredentialCache.key request.uri) cred
  returns : ∀ u cred, Walk (r.negotiate s request cs) u (done (.ok (some cred))) ↔
    ∃ v, u = v ++ [⟨.retain s.number (CredentialCache.key request.uri) cred, ()⟩] ∧
      Walk (a.acquire s request names) v (done (.ok cred))
  fails : ∀ u e, Walk (r.negotiate s request cs) u (done (.error e)) ↔
    Walk (a.acquire s request names) u (done (.error e))
  settles : ∀ u, ¬ Walk (r.negotiate s request cs) u (done (.ok none))
  /-- A cache that keeps anything holds the credential behind the negotiation. -/
  stored : ∀ {σ : Type} (o : Outside σ) (st : Store) (w : σ) (cred : Credential),
    ((r.negotiate s request cs).alone o (st, w)).1 = .ok (some cred) →
      (((r.negotiate s request cs).alone o (st, w)).2.1.vault s.number).cache.keeps = true →
        (((r.negotiate s request cs).alone o (st, w)).2.1.vault s.number).cache.find?
          (CredentialCache.key request.uri) = some cred
  /-- A failure leaves the caches as they were, if authenticators leave them alone. -/
  unchanged : r.Sparing → ∀ {σ : Type} (o : Outside σ) (st : Store) (w : σ) (e : AuthError),
    ((r.negotiate s request cs).alone o (st, w)).1 = .error e → ∀ id key,
      (((r.negotiate s request cs).alone o (st, w)).2.1.vault id).cache.find? key =
        (st.vault id).cache.find? key

theorem negotiate_walk_error (hselect : r.select s cs = some a) {e : AuthError} :
    Walk (r.negotiate s request cs) u (done (.error e)) ↔
      Walk (a.acquire s request (algorithms cs)) u (done (.error e)) := by
  rw [walk_negotiate_error, hselect]
  simp

theorem negotiate_walk_ok (hselect : r.select s cs = some a) {cred : Credential} :
    Walk (r.negotiate s request cs) u (done (.ok (some cred))) ↔
      ∃ v, u = v ++ [⟨.retain s.number (CredentialCache.key request.uri) cred, ()⟩] ∧
        Walk (a.acquire s request (algorithms cs)) v (done (.ok cred)) := by
  constructor
  · intro h
    rcases negotiate_of_walk_done h with ⟨b, v, hb, hu, hrun⟩
    rw [hselect] at hb
    cases hb
    exact ⟨v, hu, hrun⟩
  · rintro ⟨v, rfl, hrun⟩
    rw [negotiate_eq, hselect]
    dsimp only
    rw [Session.authenticate_eq]
    exact (hrun.bind _).append (.answered (.here _))

theorem not_negotiate_walk_none (hselect : r.select s cs = some a) :
    ¬ Walk (r.negotiate s request cs) u (done (.ok none)) := by
  intro h
  rcases negotiating_of_walk h with ⟨hnone, _⟩ | ⟨b, _, hplace⟩
  · rw [hselect] at hnone
    cases hnone
  · cases hplace

/-- The selected authenticator conducts the negotiation. -/
theorem conducts_of_select (hselect : r.select s cs = some a) :
    r.Conducts s request cs a (algorithms cs) where
  asks := by
    intro u op next h
    rcases negotiate_of_walk_ask h with ⟨b, hb, hasks⟩
    rw [hselect] at hb
    cases hb
    exact hasks
  returns := fun _ _ => negotiate_walk_ok hselect
  fails := fun _ _ => negotiate_walk_error hselect
  settles := fun _ => not_negotiate_walk_none hselect
  stored := by
    intro σ o st w cred hvalue hkeeps
    have hwalk := walk_transcript o.step (r.negotiate s request cs) (st, w)
    have hrun : ((r.negotiate s request cs).run o.step (st, w)).1 = .ok (some cred) := hvalue
    rw [hrun] at hwalk
    rcases (negotiate_walk_ok hselect).1 hwalk with ⟨v, hv, _⟩
    -- storing the credential is the last step
    rw [alone_store, hv, steps_append] at hkeeps ⊢
    rw [storeAfter_append, keeps_storeAfter (by simp [steps])] at hkeeps
    exact find?_of_retain hkeeps rfl (by simp)
  unchanged := by
    intro hsparing σ o st w e hvalue id key
    have hwalk := walk_transcript o.step (r.negotiate s request cs) (st, w)
    have hrun : ((r.negotiate s request cs).run o.step (st, w)).1 = .error e := hvalue
    rw [hrun, negotiate_walk_error hselect] at hwalk
    have hspares := ((hsparing s cs a hselect request (algorithms cs)).walk hwalk).1
    rw [alone_store]
    exact find?_storeAfter st (forall_steps (P := fun op : Act => op.touches id key = false)
      fun x hx => (hspares x hx).not_touches id key)

/-- A negotiation chooses from the challenges that count, or else from the bare challenge of the fallback.
Without any there is no credential, and nothing is asked.  Otherwise it is conducted by the authenticator
of the earliest challenge of greatest priority, with the algorithms that all challenges advertise.  The
authenticators of the library leave the caches of sessions alone, if the handlers of claims do. -/
theorem negotiation (r : Registry) (s : Session) (request : Request) (cs : List Challenge) :
    (∃ E, r.Contends s cs E ∧ (∀ E', r.Contends s cs E' → E' = E) ∧
      (E = [] → r.negotiate s request cs = done (.ok none)) ∧
      (E ≠ [] → ∃ c a names, Foremost E c a ∧ Advertised cs names ∧
        r.Conducts s request cs a names)) ∧
    ∀ settings (tickets : TicketProvider), (∀ h ∈ tickets.handlers, h.gather.Only Act.Modest) →
      (Registry.standard settings tickets).Sparing := by
  refine ⟨?_, fun settings tickets hgather => standard_sparing hgather⟩
  rcases exists_contends r s cs with ⟨E, hE⟩
  refine ⟨E, hE, fun E' hE' => hE'.unique hE, ?_⟩
  rcases hE.select_eq with ⟨hnil, hselect⟩ | ⟨c, a, hforemost, hselect⟩
  · refine ⟨fun _ => ?_, fun hne => absurd hnil hne⟩
    rw [negotiate_eq, hselect]
  · refine ⟨?_, fun _ => ⟨c, a, _, hforemost, advertised_algorithms cs, conducts_of_select hselect⟩⟩
    rintro rfl
    rcases hforemost with ⟨E₁, E₂, hsplit, _⟩
    simp at hsplit

/-! ### Ties, and what is not kept -/

namespace Counter

/-- Answers every challenge in its own name; a challenge without parameters comes last. -/
def clerk (c : Challenge) : Authenticator where
  name := c.scheme
  priority := if c.parameters.size = 0 then -2147483648 else 2147483647
  acquire := fun _ _ _ => done (.ok Lending.stamp)

/-- Empties the cache of the session, and fails. -/
def shredder : Authenticator where
  name := "shredder"
  priority := 0
  acquire := fun s _ _ => ask (I := World) (.wipe s.number) fun _ => done (.error (.negotiation "shut"))

/-- One provider for tickets. -/
def provider (answer : Challenge → Authenticator) : Provider where
  schemes := Names.ofList [uma]
  authenticator c := .ok (answer c)

def registry (answer : Challenge → Authenticator) : Registry :=
  (({} : Draft).withProvider (provider answer)).build

/-- Two challenges of greatest priority behind one of the least, and one that nobody answers. -/
def queue : List Challenge :=
  [⟨"UMA", .empty⟩, ⟨"Basic", Parameters.ofList [("algs", "ES384")]⟩,
    ⟨"uma", Parameters.ofList [("algs", "ES256  RS256")]⟩, ⟨"Uma", Parameters.ofList [("algs", "")]⟩]

example : ((registry clerk).candidates Lending.guest.session queue).map (·.name) =
    ["UMA", "uma", "Uma"] := by
  decide +kernel

/-- Whoever asks for a ticket is served, in any letter case. -/
theorem eligible_iff {answer : Challenge → Authenticator} {c : Challenge} {a : Authenticator} :
    (registry answer).Eligible Lending.guest.session c a ↔ lower c.scheme = "uma" ∧ answer c = a := by
  have hentries : (registry answer).providers.entries = [("uma", provider answer)] := rfl
  constructor
  · rintro ⟨⟨p, hp, hok⟩, _⟩
    rw [hentries, List.mem_singleton, Prod.mk.injEq] at hp
    rcases hp with ⟨hscheme, rfl⟩
    exact ⟨hscheme, Except.ok.inj hok⟩
  · rintro ⟨hscheme, rfl⟩
    refine ⟨⟨provider answer, ?_, rfl⟩, .inl (sameLetters_iff.2 hscheme)⟩
    rw [hentries, hscheme]
    exact .head _

/-- Of two challenges of equal priority the first is answered, whatever the words of the others. -/
theorem negotiation_queue : ∃ names,
    Advertised queue names ∧ names.toList = ["ES256", "ES384", "RS256"] ∧
      (registry clerk).Conducts Lending.guest.session (.get Lending.book) queue
        (clerk ⟨"uma", Parameters.ofList [("algs", "ES256  RS256")]⟩) names := by
  have hqueue : (registry clerk).Contends Lending.guest.session queue
      ((queue.eraseIdx 1).map fun c => (c, clerk c)) := by
    refine .challenged (.taken ?_ (.passed ?_ (.taken ?_ (.taken ?_ .done)))) (by simp [queue])
    · exact eligible_iff.2 ⟨by decide, rfl⟩
    · exact fun a ha => absurd (eligible_iff.1 ha).1 (by decide)
    · exact eligible_iff.2 ⟨by decide, rfl⟩
    · exact eligible_iff.2 ⟨by decide, rfl⟩
  rcases (negotiation (registry clerk) Lending.guest.session (.get Lending.book) queue).1 with
    ⟨E, _, hunique, _, hrun⟩
  obtain rfl := hunique _ hqueue
  rcases hrun (by simp [queue]) with
    ⟨c, a, names, ⟨E₁, E₂, hsplit, hbefore, hbehind⟩, hnames, hconducts⟩
  have hwords : names = algorithms queue :=
    Names.ext fun w => (hnames w).trans (advertised_algorithms queue w).symm
  refine ⟨names, hnames, by rw [hwords]; decide +kernel, ?_⟩
  simp only [queue, List.eraseIdx_cons_succ, List.eraseIdx_cons_zero, List.map_cons, List.map_nil]
    at hsplit
  -- the one in the middle is the foremost
  match E₁, hsplit, hbefore with
  | [], hsplit, _ =>
      cases hsplit
      exact absurd (hbehind _ (.head _)) (by decide +kernel)
  | [_], hsplit, _ =>
      cases hsplit
      exact hconducts
  | [_, _], hsplit, hbefore =>
      cases hsplit
      exact absurd (hbefore _ (.tail _ (.head _))) (by decide +kernel)
  | _ :: _ :: _ :: E₁, hsplit, _ => simp at hsplit

/-- Stores whose first session keeps nothing in its cache, and one that holds a credential there. -/
def unkeeping : Store := ({} : Store).update 0 fun v => { v with cache := .ofSettings ⟨0, 300⟩ }

def holding : Store :=
  Act.onStore {} (.retain 0 (CredentialCache.key Lending.book) Lending.stamp)

/-- A negotiation for a session whose cache keeps nothing. -/
def served : Except AuthError (Option Credential) × Store × Unit :=
  ((registry clerk).negotiate Lending.guest.session (.get Lending.book) queue).alone Lending.outside
    (unkeeping, ())

/-- A negotiation with the authenticator that empties the cache. -/
def shut : Except AuthError (Option Credential) × Store × Unit :=
  ((registry fun _ => shredder).negotiate Lending.guest.session (.get Lending.book) queue).alone
    Lending.outside (holding, ())

/-- A credential is returned and not kept by a cache that keeps nothing, and an authenticator that empties
the cache leaves it empty when it fails. -/
theorem unkept :
    (served.1 = .ok (some Lending.stamp) ∧
      (served.2.1.vault 0).cache.find? (CredentialCache.key Lending.book) = none) ∧
    shut.1 = .error (.negotiation "shut") ∧
      (holding.vault 0).cache.find? (CredentialCache.key Lending.book) = some Lending.stamp ∧
      (shut.2.1.vault 0).cache.find? (CredentialCache.key Lending.book) = none :=
  ⟨⟨by decide +kernel, by decide +kernel⟩, by decide +kernel, by decide +kernel, by decide +kernel⟩

end Counter
end Registry
end Countersign
