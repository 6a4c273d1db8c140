import Countersign.Proofs.FormBodies
import Countersign.Proofs.Walk
import Countersign.Uma.TicketExchange
import Mathlib.Control.Monad.Basic

/-!
# Ticket rounds — what an exchange posts, and what it ends in

A ticket is exchanged in rounds.  A round posts what is due and ends the exchange, unless the answer asks
for claims and these are gathered; then a new request is due.  This file follows every walk of
`TicketExchange.rounds`:

* `Grants`, `Asks`, `Refuses` — the three kinds of answers;
* `Chosen`, `Gathers` — who gathers a claim;
* `Due k w req` — `w` records `k` rounds after which `req` is due;
* `Asked`, `Ends` — the questions of an exchange and its ends, each with its record;
* `Spells`, `Carried` — what a form says, and what a post carries;
* `stands_of_walk` — every walk stands at one of them;
* `exchange_protocol` — every exchange keeps to them, whatever it is answered;
* `exchange_unlimited` — an answer that is read as a question, and a handler that reports the bound.
-/

namespace Countersign

open Program

/-! ## Who gathers a claim -/

namespace ClaimHandler

/-- Whether a handler can give what a requirement wants to see. -/
structure Meets (h : ClaimHandler) (r : RequiredClaims) : Prop where
  format : r.formats = [] ∨ h.format ∈ r.formats
  issuer : r.issuers = [] ∨ h.issuer ∈ r.issuers
  claimType : r.claimType = some h.claimType

/-- A handler is chosen for the earliest requirement that any handler meets, and is the first to meet
it. -/
def Chosen (handlers : List ClaimHandler) (required : List RequiredClaims) (i : Nat) : Prop :=
  ∃ before r after h, required = before ++ r :: after ∧ handlers[i]? = some h ∧ h.Meets r ∧
    (∀ q ∈ before, ∀ o ∈ handlers, ¬ o.Meets q) ∧
    ∀ j < i, ∀ o, handlers[j]? = some o → ¬ o.Meets r

variable {handlers : List ClaimHandler} {required : List RequiredClaims}

theorem fits_iff {h : ClaimHandler} {r : RequiredClaims} : h.fits r = true ↔ h.Meets r := by
  simp only [fits, Bool.and_eq_true, Bool.or_eq_true, List.isEmpty_iff, List.contains_iff_mem,
    beq_iff_eq]
  constructor
  · rintro ⟨⟨hformat, hissuer⟩, htype⟩
    exact ⟨hformat, hissuer, htype⟩
  · rintro ⟨hformat, hissuer, htype⟩
    exact ⟨⟨hformat, hissuer⟩, htype⟩

theorem findIdx?_fits_eq_none {r : RequiredClaims} :
    handlers.findIdx? (fun h => h.fits r) = none ↔ ∀ h ∈ handlers, ¬ h.Meets r := by
  rw [List.findIdx?_eq_none_iff]
  simp only [← fits_iff, Bool.not_eq_true]

theorem choose_eq_none :
    choose handlers required = none ↔ ∀ r ∈ required, ∀ h ∈ handlers, ¬ h.Meets r := by
  unfold choose
  rw [List.findSome?_eq_none_iff]
  simp only [findIdx?_fits_eq_none]

theorem findIdx?_fits_eq_some {r : RequiredClaims} {i : Nat} :
    handlers.findIdx? (fun h => h.fits r) = some i ↔
      (∃ h, handlers[i]? = some h ∧ h.Meets r) ∧
        ∀ j < i, ∀ o, handlers[j]? = some o → ¬ o.Meets r := by
  rw [List.findIdx?_eq_some_iff_getElem]
  constructor
  · rintro ⟨hi, hfits, hbefore⟩
    refine ⟨⟨handlers[i], List.getElem?_eq_getElem hi, fits_iff.1 hfits⟩, ?_⟩
    intro j hj o ho hmeets
    rcases List.getElem?_eq_some_iff.1 ho with ⟨_, rfl⟩
    exact hbefore j hj (fits_iff.2 hmeets)
  · rintro ⟨⟨h, hh, hmeets⟩, hbefore⟩
    rcases List.getElem?_eq_some_iff.1 hh with ⟨hi, rfl⟩
    refine ⟨hi, fits_iff.2 hmeets, ?_⟩
    intro j hj hfits
    exact hbefore j hj _ (List.getElem?_eq_getElem (Nat.lt_trans hj hi)) (fits_iff.1 hfits)

theorem choose_eq_some {i : Nat} : choose handlers required = some i ↔ Chosen handlers required i := by
  unfold choose Chosen
  rw [List.findSome?_eq_some_iff]
  constructor
  · rintro ⟨before, r, after, hrequired, hfound, hbefore⟩
    rcases findIdx?_fits_eq_some.1 hfound with ⟨⟨h, hh, hmeets⟩, hearlier⟩
    exact ⟨before, r, after, h, hrequired, hh, hmeets,
      fun q hq => findIdx?_fits_eq_none.1 (hbefore q hq), hearlier⟩
  · rintro ⟨before, r, after, h, hrequired, hh, hmeets, hbefore, hearlier⟩
    exact ⟨before, r, after, hrequired, findIdx?_fits_eq_some.2 ⟨⟨h, hh, hmeets⟩, hearlier⟩,
      fun q hq => findIdx?_fits_eq_none.2 (hbefore q hq)⟩

end ClaimHandler

namespace TicketExchange

open ClaimHandler

/-! ## Answers of the server -/

/-- An answer that grants a token. -/
structure Grants (r : Response) (token : TokenAnswer) : Prop where
  status : r.status = 200
  body : TokenAnswer.parse? r.body = some token

/-- An answer that says in its body what was wrong, whatever its status. -/
structure Tells (r : Response) (a : ErrorAnswer) : Prop where
  status : r.status ≠ 200
  body : ErrorAnswer.parse? r.body = some a

/-- An answer that asks for claims, and gives a new ticket. -/
structure Asks (r : Response) (n : NeedInfo) : Prop where
  tells : ∃ a, Tells r a ∧ a.error = some "need_info" ∧ a.ticket = some n.ticket ∧
    a.requiredClaims = n.required ∧
      (a.redirectUser.bind fun u => (Url.parse u).toOption) = n.redirect

/-- An answer that ends the exchange, with what is reported of it. -/
inductive Refuses (r : Response) : UmaError → Prop where
  | noToken : r.status = 200 → TokenAnswer.parse? r.body = none → Refuses r .malformedAnswer
  | untold : r.status ≠ 200 → ErrorAnswer.parse? r.body = none →
      Refuses r (.unexpectedStatus r.status (Utf8.decodeLossy r.body))
  | noTicket {a : ErrorAnswer} : Tells r a → a.error = some "need_info" → a.ticket = none →
      Refuses r (.needInfo "missing ticket")
  | denied {a : ErrorAnswer} : Tells r a → a.error = some "request_denied" →
      Refuses r (.requestDenied (a.description.getD
        "the client is not authorized for the requested permissions"))
  | grant {a : ErrorAnswer} : Tells r a → a.error = some "invalid_grant" →
      Refuses r (.invalidGrant (a.description.getD "invalid grant provided"))
  | scope {a : ErrorAnswer} : Tells r a → a.error = some "invalid_scope" →
      Refuses r (.invalidScope (a.description.getD "invalid scope provided"))
  | other {a : ErrorAnswer} : Tells r a → a.error ≠ some "need_info" →
      a.error ≠ some "request_denied" → a.error ≠ some "invalid_grant" →
      a.error ≠ some "invalid_scope" →
      Refuses r (.unexpectedStatus r.status (Utf8.decodeLossy r.body))

section

variable {r : Response} {n : NeedInfo} {token : TokenAnswer}

theorem Grants.verdict_eq (h : Grants r token) : verdict r = .granted token := by
  simp [verdict, h.status, h.body]

theorem Tells.verdict_eq {a : ErrorAnswer} (h : Tells r a) : verdict r = refusal r a := by
  simp [verdict, h.status, h.body]

theorem Asks.verdict_eq (h : Asks r n) : verdict r = .asked n := by
  rcases h.tells with ⟨a, htells, herror, hticket, hrequired, hredirect⟩
  rw [htells.verdict_eq]
  simp [refusal, herror, NeedInfo.ofAnswer, hticket, hrequired, hredirect]

/-- What an answer is taken for is what it is. -/
theorem verdict_sound (r : Response) :
    (∃ token, verdict r = .granted token ∧ Grants r token) ∨
      (∃ n, verdict r = .asked n ∧ Asks r n) ∨ ∃ e, verdict r = .refused e ∧ Refuses r e := by
  by_cases hstatus : r.status = 200
  · cases hbody : TokenAnswer.parse? r.body with
    | none => exact .inr (.inr ⟨_, by simp [verdict, hstatus, hbody], .noToken hstatus hbody⟩)
    | some token => exact .inl ⟨token, Grants.verdict_eq ⟨hstatus, hbody⟩, hstatus, hbody⟩
  · cases hbody : ErrorAnswer.parse? r.body with
    | none => exact .inr (.inr ⟨_, by simp [verdict, hstatus, hbody, unexpected], .untold hstatus hbody⟩)
    | some a =>
        have htells : Tells r a := ⟨hstatus, hbody⟩
        rw [htells.verdict_eq]
        unfold refusal
        -- one case for each error that the server can name
        split
        case h_1 herror =>
            cases hticket : a.ticket with
            | none =>
                have hanswer : NeedInfo.ofAnswer a = .error (.needInfo "missing ticket") := by
                  simp [NeedInfo.ofAnswer, hticket]
                rw [hanswer]
                exact .inr (.inr ⟨_, rfl, .noTicket htells herror hticket⟩)
            | some ticket =>
                rw [NeedInfo.ofAnswer, hticket]
                exact .inr (.inl ⟨_, rfl, a, htells, herror, hticket, rfl, rfl⟩)
        case h_2 herror => exact .inr (.inr ⟨_, rfl, .denied htells herror⟩)
        case h_3 herror => exact .inr (.inr ⟨_, rfl, .grant htells herror⟩)
        case h_4 herror => exact .inr (.inr ⟨_, rfl, .scope htells herror⟩)
        case h_5 hinfo hdenied hgrant hscope =>
            exact .inr (.inr ⟨_, rfl, .other htells hinfo hdenied hgrant hscope⟩)

end

/-! ## One round -/

/-- Preparing a post asks at most for one proof of it. -/
inductive Prepared (post : Request) :
    Option String → Transcript TicketExchange → Except UmaError Request → Prop where
  | unbound : Prepared post none [] (.ok post)
  | failed {thumbprint : String} (e : ProofError) :
      Prepared post (some thumbprint) [⟨.prove thumbprint post, .error e⟩] (.error (.proof e))
  | unknown {thumbprint : String} :
      Prepared post (some thumbprint) [⟨.prove thumbprint post, .ok none⟩]
        (.error (.proof (.unknownThumbprint thumbprint)))
  | signed {thumbprint : String} (proof : String) :
      Prepared post (some thumbprint) [⟨.prove thumbprint post, .ok (some proof)⟩]
        (withProof post proof)

/-- Gathering a claim asks the chosen handler, and nobody if no handler meets any requirement. -/
inductive Gathers (handlers : List ClaimHandler) (n : NeedInfo) :
    Transcript TicketExchange → Except UmaError (Option ClaimToken) → Prop where
  | nobody : (∀ r ∈ n.required, ∀ h ∈ handlers, ¬ h.Meets r) → Gathers handlers n [] (.ok none)
  | asked {i : Nat} (answer : Except UmaError (Option ClaimToken)) : Chosen handlers n.required i →
      Gathers handlers n [⟨.gather i, answer⟩] answer

/-- The posts with their answers, in order. -/
def posted : Transcript TicketExchange → List (Request × Except TransportError Response)
  | [] => []
  | ⟨.post up, answer⟩ :: w => (up, answer) :: posted w
  | ⟨.gather _, _⟩ :: w => posted w
  | ⟨.prove _ _, _⟩ :: w => posted w

@[simp] theorem posted_append (w w' : Transcript TicketExchange) :
    posted (w ++ w') = posted w ++ posted w' := by
  induction w with
  | nil => rfl
  | cons e w ih =>
      rcases e with ⟨_ | _ | _, answer⟩
      case post => exact congrArg (List.cons _) ih
      all_goals exact ih

variable {limit left k : Nat} {endpoint : Url} {handlers : List ClaimHandler} {bound : Option String}
  {t req : TicketRequest} {b d g w : Transcript TicketExchange} {post : Request} {n : NeedInfo}

theorem Prepared.silent {x : Except UmaError Request} (h : Prepared post bound d x) :
    posted d = [] := by
  cases h <;> rfl

theorem Gathers.silent {x : Except UmaError (Option ClaimToken)} (h : Gathers handlers n g x) :
    posted g = [] := by
  cases h <;> rfl

theorem prepared_of_walk {x : Except UmaError Request} (h : Walk (proven post bound) d (done x)) :
    Prepared post bound d x := by
  cases bound with
  | none =>
      rcases walk_done_iff.1 h with ⟨rfl, hx⟩
      cases hx
      exact .unbound
  | some thumbprint =>
      rcases walk_ask_iff.1 h with ⟨_, hx⟩ | ⟨answer, d', rfl, hrest⟩
      · cases hx
      · rcases answer with e | _ | proof
        all_goals
          rcases walk_done_iff.1 hrest with ⟨rfl, hx⟩
          injection hx with hx
          subst hx
        · exact .failed e
        · exact .unknown
        · exact .signed proof

theorem Prepared.walk {x : Except UmaError Request} (h : Prepared post bound d x) :
    Walk (proven post bound) d (done x) := by
  cases h with
  | unbound => exact .here _
  | failed e => exact .answered (.here _)
  | unknown => exact .answered (.here _)
  | signed proof => exact .answered (.here _)

/-- A post is as it was to be, or it has been given a proof. -/
theorem Prepared.of_ok {up : Request} (h : Prepared post bound d (.ok up)) :
    (bound = none ∧ d = [] ∧ up = post) ∨
      ∃ thumbprint proof, bound = some thumbprint ∧
        d = [⟨.prove thumbprint post, .ok (some proof)⟩] ∧ up = post.setHeader "dpop" proof := by
  generalize hx : (Except.ok up : Except UmaError Request) = x at h
  cases h with
  | unbound =>
      cases hx
      exact .inl ⟨rfl, rfl, rfl⟩
  | failed e => cases hx
  | unknown => cases hx
  | signed proof => exact .inr ⟨_, proof, rfl, rfl, (withProof_eq_ok.1 hx.symm).2⟩

/-- What fails before a post is its proof: it is not made, or its text may not be sent. -/
theorem Prepared.of_error {e : UmaError} (h : Prepared post bound d (.error e)) :
    (∃ thumbprint answer, d = [⟨.prove thumbprint post, answer⟩]) ∧
      ((∃ cause, e = .proof cause) ∨ ∃ cause, e = .transport cause) := by
  generalize hx : (Except.error e : Except UmaError Request) = x at h
  cases h with
  | unbound => cases hx
  | failed _ =>
      cases hx
      exact ⟨⟨_, _, rfl⟩, .inl ⟨_, rfl⟩⟩
  | unknown =>
      cases hx
      exact ⟨⟨_, _, rfl⟩, .inl ⟨_, rfl⟩⟩
  | signed proof =>
      refine ⟨⟨_, _, rfl⟩, .inr ?_⟩
      unfold withProof at hx
      split at hx
      · cases hx
      · cases hx
        exact ⟨_, rfl⟩

theorem gathers_of_walk {x : Except UmaError (Option ClaimToken)}
    (h : Walk (gathered handlers n) g (done x)) : Gathers handlers n g x := by
  unfold gathered at h
  cases hchoice : choose handlers n.required with
  | none =>
      rw [hchoice] at h
      rcases walk_done_iff.1 h with ⟨rfl, hx⟩
      cases hx
      exact .nobody (choose_eq_none.1 hchoice)
  | some i =>
      rw [hchoice] at h
      rcases walk_ask_iff.1 h with ⟨_, hx⟩ | ⟨answer, g', rfl, hrest⟩
      · cases hx
      · rcases walk_done_iff.1 hrest with ⟨rfl, hx⟩
        cases hx
        exact .asked _ (choose_eq_some.1 hchoice)

theorem Gathers.walk {x : Except UmaError (Option ClaimToken)} (h : Gathers handlers n g x) :
    Walk (gathered handlers n) g (done x) := by
  cases h with
  | nobody hnone =>
      rw [gathered, choose_eq_none.2 hnone]
      exact .here _
  | asked answer hchosen =>
      rw [gathered, choose_eq_some.2 hchosen]
      exact .answered (.here _)

/-- What follows an answer: only a question leads on. -/
def afterVerdict (handlers : List ClaimHandler)
    (go : NeedInfo → Option ClaimToken → Program TicketExchange (Except UmaError TokenAnswer)) :
    Verdict → Program TicketExchange (Except UmaError TokenAnswer)
  | .granted token => done (.ok token)
  | .refused e => done (.error e)
  | .asked n => (gathered handlers n).bind fun
    | .error e => done (.error e)
    | .ok claim => go n claim

theorem rounds_succ :
    rounds limit endpoint handlers bound (left + 1) t =
      (proven (t.post endpoint) bound).bind fun
        | .error e => done (.error e)
        | .ok post => ask (I := TicketExchange) (.post post) fun
          | .error e => done (.error (.transport e))
          | .ok r => afterVerdict handlers
              (fun n claim => rounds limit endpoint handlers bound left (t.next n claim)) (verdict r) :=
  rfl

/-! ## What is due -/

/-- So many rounds are recorded, and after them a request is due: at first the one of the caller, and
then the one that carries the new ticket and what was gathered for the latest answer. -/
inductive Due (endpoint : Url) (handlers : List ClaimHandler) (bound : Option String)
    (t : TicketRequest) : Nat → Transcript TicketExchange → TicketRequest → Prop where
  | first : Due endpoint handlers bound t 0 [] t
  | again {k : Nat} {b d g : Transcript TicketExchange} {req : TicketRequest} {post : Request}
      {r : Response} {n : NeedInfo} {claim : Option ClaimToken} :
      Due endpoint handlers bound t k b req → Prepared (req.post endpoint) bound d (.ok post) →
      Asks r n → Gathers handlers n g (.ok claim) →
      Due endpoint handlers bound t (k + 1) (b ++ (d ++ ⟨.post post, .ok r⟩ :: g))
        { ticket := n.ticket, claim, scopes := t.scopes }

/-- What an exchange posts, with what it has recorded before. -/
inductive Posts (limit : Nat) (endpoint : Url) (handlers : List ClaimHandler) (bound : Option String)
    (t : TicketRequest) : Transcript TicketExchange → Request → Prop where
  | due {k : Nat} {b d : Transcript TicketExchange} {req : TicketRequest} {post : Request} :
      Due endpoint handlers bound t k b req → k < limit →
      Prepared (req.post endpoint) bound d (.ok post) →
      Posts limit endpoint handlers bound t (b ++ d) post

/-- The questions that an exchange asks, with what it has recorded before. -/
inductive Asked (limit : Nat) (endpoint : Url) (handlers : List ClaimHandler) (bound : Option String)
    (t : TicketRequest) : Transcript TicketExchange → TicketExchange.Op → Prop where
  | prove {k : Nat} {b : Transcript TicketExchange} {req : TicketRequest} {thumbprint : String} :
      Due endpoint handlers bound t k b req → k < limit → bound = some thumbprint →
      Asked limit endpoint handlers bound t b (.prove thumbprint (req.post endpoint))
  | post {c : Transcript TicketExchange} {post : Request} :
      Posts limit endpoint handlers bound t c post →
      Asked limit endpoint handlers bound t c (.post post)
  | gather {c : Transcript TicketExchange} {post : Request} {r : Response} {n : NeedInfo} {i : Nat} :
      Posts limit endpoint handlers bound t c post → Asks r n → Chosen handlers n.required i →
      Asked limit endpoint handlers bound t (c ++ [⟨.post post, .ok r⟩]) (.gather i)

/-- The ends of an exchange, with their values. -/
inductive Ends (limit : Nat) (endpoint : Url) (handlers : List ClaimHandler) (bound : Option String)
    (t : TicketRequest) : Transcript TicketExchange → Except UmaError TokenAnswer → Prop where
  | granted {c : Transcript TicketExchange} {post : Request} {r : Response} {token : TokenAnswer} :
      Posts limit endpoint handlers bound t c post → Grants r token →
      Ends limit endpoint handlers bound t (c ++ [⟨.post post, .ok r⟩]) (.ok token)
  | exhausted {w : Transcript TicketExchange} {req : TicketRequest} :
      Due endpoint handlers bound t limit w req →
      Ends limit endpoint handlers bound t w (.error (.maxIterations limit))
  | unprepared {k : Nat} {b d : Transcript TicketExchange} {req : TicketRequest} {e : UmaError} :
      Due endpoint handlers bound t k b req → k < limit →
      Prepared (req.post endpoint) bound d (.error e) →
      Ends limit endpoint handlers bound t (b ++ d) (.error e)
  | unanswered {c : Transcript TicketExchange} {post : Request} (e : TransportError) :
      Posts limit endpoint handlers bound t c post →
      Ends limit endpoint handlers bound t (c ++ [⟨.post post, .error e⟩]) (.error (.transport e))
  | refused {c : Transcript TicketExchange} {post : Request} {r : Response} {e : UmaError} :
      Posts limit endpoint handlers bound t c post → Refuses r e →
      Ends limit endpoint handlers bound t (c ++ [⟨.post post, .ok r⟩]) (.error e)
  | ungathered {c g : Transcript TicketExchange} {post : Request} {r : Response} {n : NeedInfo}
      {e : UmaError} :
      Posts limit endpoint handlers bound t c post → Asks r n → Gathers handlers n g (.error e) →
      Ends limit endpoint handlers bound t (c ++ ⟨.post post, .ok r⟩ :: g) (.error e)

namespace Due

/-- What is due after a round is what the exchange goes on with. -/
theorem next_eq (h : Due endpoint handlers bound t k b req) (claim : Option ClaimToken) :
    req.next n claim = { ticket := n.ticket, claim, scopes := t.scopes } := by
  -- the scopes are handed on from round to round
  have hscopes : req.scopes = t.scopes := by cases h <;> rfl
  rw [TicketRequest.next, hscopes]

theorem next (h : Due endpoint handlers bound t k b req) {r : Response} {claim : Option ClaimToken}
    (hpost : Prepared (req.post endpoint) bound d (.ok post)) (hasks : Asks r n)
    (hgathers : Gathers handlers n g (.ok claim)) :
    Due endpoint handlers bound t (k + 1) (b ++ (d ++ ⟨.post post, .ok r⟩ :: g))
      (req.next n claim) := by
  rw [h.next_eq claim]
  exact .again h hpost hasks hgathers

/-- Every round has one post. -/
theorem length_posted (h : Due endpoint handlers bound t k b req) : (posted b).length = k := by
  induction h with
  | first => rfl
  | again _ hpost _ hgathers ih => simp [posted, hpost.silent, hgathers.silent, ih]

/-- Answered as it records, an exchange goes on with what is due. -/
theorem walk (h : Due endpoint handlers bound t k b req) (hk : k + left = limit) :
    Walk (rounds limit endpoint handlers bound limit t) b
      (rounds limit endpoint handlers bound left req) := by
  induction h generalizing left with
  | first =>
      have hleft : left = limit := by omega
      rw [hleft]
      exact .here _
  | @again k b d g req post r n claim hdue hpost hasks hgathers ih =>
      -- the recorded answers take the exchange through its latest round
      have hround : Walk (rounds limit endpoint handlers bound (left + 1) req)
          (d ++ ⟨.post post, .ok r⟩ :: g)
          (rounds limit endpoint handlers bound left (req.next n claim)) := by
        rw [rounds_succ]
        refine (hpost.walk.bind _).append (Walk.answered ?_)
        show Walk (afterVerdict handlers _ (verdict r)) g _
        rw [hasks.verdict_eq]
        exact hgathers.walk.bind _
      rw [← hdue.next_eq claim]
      exact (ih (by omega)).append hround

end Due

/-! ## Every exchange -/

theorem prove_of_walk {q : TicketExchange.Op}
    {after : TicketExchange.Answer q → Program TicketExchange (Except UmaError Request)}
    (h : Walk (proven post bound) d (ask q after)) :
    d = [] ∧ ∃ thumbprint, bound = some thumbprint ∧ q = .prove thumbprint post := by
  cases bound with
  | none =>
      rcases walk_done_iff.1 h with ⟨_, hq⟩
      cases hq
  | some thumbprint =>
      rcases walk_ask_iff.1 h with ⟨rfl, hq⟩ | ⟨answer, d', rfl, hrest⟩
      · cases hq
        exact ⟨rfl, thumbprint, rfl, rfl⟩
      · rcases answer with e | _ | proof
        all_goals
          rcases walk_done_iff.1 hrest with ⟨_, hq⟩
          cases hq

theorem gather_of_walk {q : TicketExchange.Op}
    {after : TicketExchange.Answer q →
      Program TicketExchange (Except UmaError (Option ClaimToken))}
    (h : Walk (gathered handlers n) g (ask q after)) :
    g = [] ∧ ∃ i, Chosen handlers n.required i ∧ q = .gather i := by
  unfold gathered at h
  cases hchoice : choose handlers n.required with
  | none =>
      rw [hchoice] at h
      rcases walk_done_iff.1 h with ⟨_, hq⟩
      cases hq
  | some i =>
      rw [hchoice] at h
      rcases walk_ask_iff.1 h with ⟨rfl, hq⟩ | ⟨answer, g', rfl, hrest⟩
      · cases hq
        exact ⟨rfl, i, choose_eq_some.1 hchoice, rfl⟩
      · rcases walk_done_iff.1 hrest with ⟨_, hq⟩
        cases hq

/-- Where an exchange stands after a record: it has ended, or it asks its next question. -/
def Stands (limit : Nat) (endpoint : Url) (handlers : List ClaimHandler) (bound : Option String)
    (t : TicketRequest) (w : Transcript TicketExchange) :
    Program TicketExchange (Except UmaError TokenAnswer) → Prop
  | done v => Ends limit endpoint handlers bound t w v
  | ask q _ => Asked limit endpoint handlers bound t w q

@[simp] theorem stands_done {v : Except UmaError TokenAnswer} :
    Stands limit endpoint handlers bound t w (done v) ↔ Ends limit endpoint handlers bound t w v :=
  Iff.rfl

/-- From what is due an exchange asks only what belongs to it, and comes only to its ends. -/
theorem stands_of_walk {q : Program TicketExchange (Except UmaError TokenAnswer)}
    (hdue : Due endpoint handlers bound t k b req) (hk : k + left = limit)
    (h : Walk (rounds limit endpoint handlers bound left req) w q) :
    Stands limit endpoint handlers bound t (b ++ w) q := by
  -- induction on the rounds left; what is due moves on with the record
  induction left generalizing k b req w with
  | zero =>
      rcases walk_done_iff.1 h with ⟨rfl, rfl⟩
      have hlimit : k = limit := by omega
      subst hlimit
      simpa using Ends.exhausted hdue
  | succ left ih =>
      have hlt : k < limit := by omega
      rcases h.of_bind_or with ⟨op, rest, hprepare, rfl⟩ | ⟨x, d, w, rfl, hprepare, hrest⟩
      · rcases prove_of_walk hprepare with ⟨rfl, thumbprint, hbound, rfl⟩
        rw [List.append_nil]
        exact Asked.prove hdue hlt hbound
      · have hprepared := prepared_of_walk hprepare
        cases x with
        | error e =>
            rcases walk_done_iff.1 hrest with ⟨rfl, rfl⟩
            simpa using Ends.unprepared hdue hlt hprepared
        | ok post =>
            have hposts : Posts limit endpoint handlers bound t (b ++ d) post :=
              .due hdue hlt hprepared
            rw [← List.append_assoc]
            rcases walk_ask_iff.1 hrest with ⟨rfl, rfl⟩ | ⟨answer, w, rfl, hanswer⟩
            · rw [List.append_nil]
              exact Asked.post hposts
            · cases answer with
              | error e =>
                  rcases walk_done_iff.1 hanswer with ⟨rfl, rfl⟩
                  exact Ends.unanswered e hposts
              | ok r =>
                  replace hanswer : Walk (afterVerdict handlers _ (verdict r)) w q := hanswer
                  -- behind an answer only a question of the server is followed up
                  rcases verdict_sound r with ⟨token, hverdict, hgrants⟩ | ⟨n, hverdict, hasks⟩ |
                    ⟨e, hverdict, hrefuses⟩
                  · rw [hverdict] at hanswer
                    rcases walk_done_iff.1 hanswer with ⟨rfl, rfl⟩
                    exact Ends.granted hposts hgrants
                  · rw [hverdict] at hanswer
                    rcases Walk.of_bind_or hanswer with ⟨op, rest, hgather, rfl⟩ |
                      ⟨claim, g, u, rfl, hgather, hround⟩
                    · rcases gather_of_walk hgather with ⟨rfl, i, hchosen, rfl⟩
                      exact Asked.gather hposts hasks hchosen
                    · have hgathers := gathers_of_walk hgather
                      cases claim with
                      | error e =>
                          rcases walk_done_iff.1 hround with ⟨rfl, rfl⟩
                          simpa using Ends.ungathered hposts hasks hgathers
                      | ok claim =>
                          have hstands := ih (hdue.next hprepared hasks hgathers) (by omega) hround
                          simpa using hstands
                  · rw [hverdict] at hanswer
                    rcases walk_done_iff.1 hanswer with ⟨rfl, rfl⟩
                    exact Ends.refused hposts hrefuses

/-! ## What a post carries -/

/-- What a form says of a request: which values stand under each name, as octets. -/
structure Spells (req : TicketRequest) (form : String) : Prop where
  grant : Form.values form "grant_type" =
    [Utf8.encode "urn:ietf:params:oauth:grant-type:uma-ticket"]
  ticket : Form.values form "ticket" = [Utf8.encode req.ticket]
  persisted : Form.values form "pct" = (req.persistedClaims.map Utf8.encode).toList
  previous : Form.values form "rpt" = (req.previousToken.map Utf8.encode).toList
  claim : Form.values form "claim_token" = (req.claim.map fun c => Utf8.encode c.token).toList
  kind : Form.values form "claim_token_type" = (req.claim.map fun c => Utf8.encode c.kind).toList
  scope : Form.values form "scope" =
    if req.scopes = [] then [] else [Utf8.encode (" ".intercalate req.scopes)]
  others : ∀ name ∉ ["grant_type", "ticket", "pct", "rpt", "claim_token", "claim_token_type", "scope"],
    Form.values form name = []

/-- Whether a post carries a request: its body is a form that says it. -/
structure Carried (req : TicketRequest) (post : Request) : Prop where
  kind : post.headers.values "content-type" = [Utf8.encode "application/x-www-form-urlencoded"]
  body : ∃ form, post.body = some (Utf8.encode form) ∧ Spells req form

theorem name_of_mem_fields {f : String × String} (h : f ∈ req.fields) :
    f.1 ∈ ["grant_type", "ticket", "pct", "rpt", "claim_token", "claim_token_type", "scope"] := by
  unfold TicketRequest.fields at h
  simp only [List.mem_append, List.mem_cons, List.not_mem_nil, or_false, Option.mem_toList,
    Option.map_eq_some_iff] at h
  rcases h with ((((rfl | rfl) | ⟨_, _, rfl⟩) | ⟨_, _, rfl⟩) | hclaim) | hscope
  · simp
  · simp
  · simp
  · simp
  · cases hgathered : req.claim with
    | none => simp [hgathered] at hclaim
    | some claim =>
        rw [hgathered] at hclaim
        simp only [List.mem_cons, List.not_mem_nil, or_false] at hclaim
        rcases hclaim with rfl | rfl
        · simp
        · simp
  · split at hscope
    · cases hscope
    · rw [List.mem_singleton.1 hscope]
      simp

/-- The form of a request says the request. -/
theorem spells_fields (req : TicketRequest) : Spells req (Percent.form req.fields) := by
  constructor
  case others =>
    intro name hname
    rw [Form.values_form, List.map_eq_nil_iff, List.filter_eq_nil_iff]
    intro f hf hsame
    -- a field under this name would be one of the seven
    rw [← of_decide_eq_true hsame] at hname
    exact hname (name_of_mem_fields hf)
  -- a part that is missing has no field
  all_goals
    rw [Form.values_form]
    rcases req with ⟨ticket, persisted, previous, claim, scopes⟩
    cases persisted <;> cases previous <;> cases claim <;> by_cases hscopes : scopes = [] <;>
      simp [TicketRequest.fields, TicketRequest.grant, hscopes]

theorem Prepared.carried (h : Prepared (req.post endpoint) bound d (.ok post)) : Carried req post := by
  have hpost : Carried req (req.post endpoint) := ⟨rfl, _, rfl, spells_fields req⟩
  rcases h.of_ok with ⟨_, _, rfl⟩ | ⟨thumbprint, proof, _, _, rfl⟩
  · exact hpost
  · -- a proof is beside the form
    refine ⟨?_, hpost.body⟩
    rw [Request.setHeader, Headers.values_set_ne _ (by decide)]
    exact hpost.kind

/-- What is posted carries what is due after as many rounds as there are posts before it. -/
theorem Posts.carried {c : Transcript TicketExchange}
    (h : Posts limit endpoint handlers bound t c post) :
    ∃ b d req, c = b ++ d ∧ Due endpoint handlers bound t (posted c).length b req ∧
      Carried req post := by
  cases h with
  | @due k b d req post hdue _ hprepared =>
      have hlength : (posted (b ++ d)).length = k := by
        rw [posted_append, hprepared.silent, List.append_nil, hdue.length_posted]
      exact ⟨b, d, req, rfl, hlength ▸ hdue, hprepared.carried⟩

/-! ## The rules of an exchange -/

/-- Whether a post goes to the endpoint, with one proof if the exchange is bound to a key and with none
if it is not. -/
structure Addressed (endpoint : Url) (bound : Option String) (post : Request) : Prop where
  method : post.method = "POST"
  uri : post.uri = endpoint
  unproven : bound = none → post.headers.values "dpop" = []
  proven : bound ≠ none → ∃ proof, post.headers.values "dpop" = [Utf8.encode proof]

theorem Prepared.addressed (h : Prepared (req.post endpoint) bound d (.ok post)) :
    Addressed endpoint bound post := by
  rcases h.of_ok with ⟨rfl, _, rfl⟩ | ⟨thumbprint, proof, rfl, _, rfl⟩
  · exact ⟨rfl, rfl, fun _ => rfl, fun hbound => absurd rfl hbound⟩
  · refine ⟨rfl, rfl, fun hbound => (by cases hbound), fun _ => ⟨proof, ?_⟩⟩
    exact Headers.values_set_self _ _ _

theorem Due.addressed (h : Due endpoint handlers bound t k b req) :
    ∀ s ∈ posted b, Addressed endpoint bound s.1 := by
  induction h with
  | first => simp [posted]
  | again _ hpost _ hgathers ih =>
      intro s hs
      simp only [posted_append, hpost.silent, posted, hgathers.silent, List.nil_append,
        List.mem_append, List.mem_singleton] at hs
      rcases hs with hbefore | rfl
      · exact ih s hbefore
      · exact hpost.addressed

/-- A record within the limit, whose posts all go where they should. -/
structure Bounded (limit : Nat) (endpoint : Url) (bound : Option String)
    (w : Transcript TicketExchange) : Prop where
  length : (posted w).length ≤ limit
  addressed : ∀ s ∈ posted w, Addressed endpoint bound s.1

theorem Due.bounded (h : Due endpoint handlers bound t k b req) (hk : k ≤ limit) :
    Bounded limit endpoint bound b :=
  ⟨by rw [h.length_posted]; exact hk, h.addressed⟩

theorem Bounded.prepared {x : Except UmaError Request} (h : Bounded limit endpoint bound b)
    (hprepared : Prepared post bound d x) : Bounded limit endpoint bound (b ++ d) := by
  rcases h with ⟨hlength, haddressed⟩
  constructor
  · simpa [hprepared.silent] using hlength
  · simpa [hprepared.silent] using haddressed

theorem Bounded.gathered {x : Except UmaError (Option ClaimToken)}
    (h : Bounded limit endpoint bound b) (hgathers : Gathers handlers n g x) :
    Bounded limit endpoint bound (b ++ g) := by
  rcases h with ⟨hlength, haddressed⟩
  constructor
  · simpa [hgathers.silent] using hlength
  · simpa [hgathers.silent] using haddressed

variable {c : Transcript TicketExchange}

theorem Posts.addressed (h : Posts limit endpoint handlers bound t c post) :
    Addressed endpoint bound post := by
  cases h with
  | due _ _ hprepared => exact hprepared.addressed

theorem Posts.bounded (h : Posts limit endpoint handlers bound t c post) :
    Bounded limit endpoint bound c := by
  cases h with
  | due hdue hlt hprepared => exact (hdue.bounded (Nat.le_of_lt hlt)).prepared hprepared

/-- There is always room for what is posted. -/
theorem Posts.bounded_answered (h : Posts limit endpoint handlers bound t c post)
    (answer : Except TransportError Response) :
    Bounded limit endpoint bound (c ++ [⟨.post post, answer⟩]) := by
  cases h with
  | @due k b d req post hdue hlt hprepared =>
      constructor
      · have hlength : (posted b).length = k := hdue.length_posted
        simp only [posted_append, hprepared.silent, posted, List.length_append, List.length_nil,
          List.length_singleton, hlength]
        omega
      · intro s hs
        simp only [posted_append, hprepared.silent, posted, List.append_nil, List.mem_append,
          List.mem_singleton] at hs
        rcases hs with hbefore | rfl
        · exact hdue.addressed s hbefore
        · exact hprepared.addressed

theorem Asked.bounded {q : TicketExchange.Op} (h : Asked limit endpoint handlers bound t w q) :
    Bounded limit endpoint bound w := by
  cases h with
  | prove hdue hlt _ => exact hdue.bounded (Nat.le_of_lt hlt)
  | post hposts => exact hposts.bounded
  | gather hposts _ _ => exact hposts.bounded_answered _

theorem Ends.bounded {v : Except UmaError TokenAnswer}
    (h : Ends limit endpoint handlers bound t w v) : Bounded limit endpoint bound w := by
  cases h with
  | granted hposts _ => exact hposts.bounded_answered _
  | exhausted hdue => exact hdue.bounded (Nat.le_refl _)
  | unprepared hdue hlt hprepared => exact (hdue.bounded (Nat.le_of_lt hlt)).prepared hprepared
  | unanswered e hposts => exact hposts.bounded_answered _
  | refused hposts _ => exact hposts.bounded_answered _
  | ungathered hposts _ hgathers =>
      simpa using (hposts.bounded_answered _).gathered hgathers

/-! ## The last entry of a record -/

variable {e x : Entry TicketExchange}

theorem Gathers.last {y : Except UmaError (Option ClaimToken)} (h : Gathers handlers n g y)
    (hw : b ++ x :: g = c ++ [e]) :
    (e = x ∧ y = .ok none) ∨ ∃ i, e = ⟨.gather i, y⟩ := by
  cases h with
  | nobody _ =>
      have hlast := List.append_inj_right' hw rfl
      cases hlast
      exact .inl ⟨rfl, rfl⟩
  | @asked i _ _ =>
      have hgather : (b ++ [x]) ++ [⟨.gather i, y⟩] = c ++ [e] := by simpa using hw
      have hlast := List.append_inj_right' hgather rfl
      cases hlast
      exact .inr ⟨i, rfl⟩

theorem Prepared.last {f : UmaError} (h : Prepared post bound d (.error f)) (hw : b ++ d = c ++ [e]) :
    ∃ thumbprint answer, e = ⟨.prove thumbprint post, answer⟩ := by
  rcases h.of_error with ⟨⟨thumbprint, answer, rfl⟩, _⟩
  have hlast := List.append_inj_right' hw rfl
  cases hlast
  exact ⟨thumbprint, answer, rfl⟩

theorem getLast_posted {answer : Except TransportError Response} (hg : posted g = []) :
    (posted (c ++ ⟨.post post, answer⟩ :: g)).getLast? = some (post, answer) := by
  simp [posted, hg]

/-- The latest answer of some rounds asks for claims. -/
theorem Due.last_posted (h : Due endpoint handlers bound t k w req)
    {s : Request × Except TransportError Response} (hs : (posted w).getLast? = some s) :
    ∃ post r n, s = (post, .ok r) ∧ Asks r n := by
  cases h with
  | first => cases hs
  | again _ _ hasks hgathers =>
      rw [← List.append_assoc, getLast_posted hgathers.silent] at hs
      exact ⟨_, _, _, (Option.some.inj hs).symm, hasks⟩

theorem Refuses.not_grants {r : Response} {e : UmaError} {token : TokenAnswer} (h : Refuses r e) :
    ¬ Grants r token := by
  intro hgrants
  cases h with
  | noToken _ hnone => simp [hgrants.body] at hnone
  | untold hstatus _ => exact hstatus hgrants.status
  | noTicket htells _ _ => exact htells.status hgrants.status
  | denied htells _ => exact htells.status hgrants.status
  | grant htells _ => exact htells.status hgrants.status
  | scope htells _ => exact htells.status hgrants.status
  | other htells _ _ _ _ => exact htells.status hgrants.status

theorem Asks.not_grants {r : Response} {token : TokenAnswer} (h : Asks r n) : ¬ Grants r token := by
  intro hgrants
  rcases h.tells with ⟨a, htells, _⟩
  exact htells.status hgrants.status

/-- A value is a granted token if and only if the latest answer grants it. -/
theorem Ends.granted_iff {v : Except UmaError TokenAnswer}
    (h : Ends limit endpoint handlers bound t w v) {token : TokenAnswer} :
    v = .ok token ↔ ∃ post r, (posted w).getLast? = some (post, .ok r) ∧ Grants r token := by
  constructor
  · rintro rfl
    cases h with
    | granted _ hgrants => exact ⟨_, _, getLast_posted rfl, hgrants⟩
  · rintro ⟨post, r, hlast, hgrants⟩
    -- at every other end the latest answer is another one
    cases h with
    | granted _ hgrants' =>
        rw [getLast_posted rfl] at hlast
        cases hlast
        have htoken := hgrants'.body.symm.trans hgrants.body
        rw [Option.some.inj htoken]
    | exhausted hdue =>
        rcases hdue.last_posted hlast with ⟨post', r', n, heq, hasks⟩
        cases heq
        exact absurd hgrants hasks.not_grants
    | unprepared hdue _ hprepared =>
        rw [posted_append, hprepared.silent, List.append_nil] at hlast
        rcases hdue.last_posted hlast with ⟨post', r', n, heq, hasks⟩
        cases heq
        exact absurd hgrants hasks.not_grants
    | unanswered e _ =>
        rw [getLast_posted rfl] at hlast
        cases hlast
    | refused _ hrefuses =>
        rw [getLast_posted rfl] at hlast
        cases hlast
        exact absurd hgrants hrefuses.not_grants
    | ungathered _ hasks hgathers =>
        rw [getLast_posted hgathers.silent] at hlast
        cases hlast
        exact absurd hgrants hasks.not_grants

/-- The bound is reported if and only if so many rounds are recorded, or a handler reports it itself. -/
theorem Ends.exhausted_iff {v : Except UmaError TokenAnswer}
    (h : Ends limit endpoint handlers bound t w v)
    (hwalk : Walk (rounds limit endpoint handlers bound limit t) w (done v)) :
    v = .error (.maxIterations limit) ↔
      (∃ req, Due endpoint handlers bound t limit w req) ∨
        ∃ c i, w = c ++ [⟨.gather i, .error (.maxIterations limit)⟩] := by
  constructor
  · intro hv
    cases h with
    | granted _ _ => cases hv
    | exhausted hdue => exact .inl ⟨_, hdue⟩
    | unprepared _ _ hprepared =>
        cases hv
        rcases hprepared.of_error.2 with ⟨cause, hcause⟩ | ⟨cause, hcause⟩
        · cases hcause
        · cases hcause
    | unanswered e _ => cases hv
    | refused _ hrefuses =>
        cases hv
        cases hrefuses
    | @ungathered c g post r n e _ _ hgathers =>
        cases hv
        cases hgathers with
        | asked _ _ => exact .inr ⟨c ++ [⟨.post post, .ok r⟩], _, by simp; rfl⟩
  · rintro (⟨req, hdue⟩ | ⟨c, i, hw⟩)
    · -- the record of all rounds leads to the end without a round left, and nowhere else
      have hzero : rounds limit endpoint handlers bound 0 req = done v :=
        (hdue.walk (Nat.add_zero _)).unique hwalk
      cases hzero
      rfl
    · -- the last entry of the record is a handler's, which tells the end
      cases h with
      | granted _ _ =>
          have hlast := List.append_inj_right' hw rfl
          cases hlast
      | exhausted hdue => rfl
      | unprepared _ _ hprepared =>
          rcases hprepared.last hw with ⟨thumbprint, answer, hlast⟩
          cases hlast
      | unanswered e _ =>
          have hlast := List.append_inj_right' hw rfl
          cases hlast
      | refused _ _ =>
          have hlast := List.append_inj_right' hw rfl
          cases hlast
      | ungathered _ _ hgathers =>
          rcases hgathers.last hw with ⟨hlast, _⟩ | ⟨i, hlast⟩
          · cases hlast
          · cases hlast
            rfl

/-- What every exchange of a ticket keeps to, whatever answers its questions. -/
structure Protocol (limit : Nat) (endpoint : Url) (handlers : List ClaimHandler)
    (bound : Option String) (t : TicketRequest) : Prop where
  /-- Each question has its place: a post carries what is due, and a claim is gathered by the chosen
  handler right behind the answer that asks for it. -/
  asked : ∀ w q after, Walk (rounds limit endpoint handlers bound limit t) w (ask q after) →
    Asked limit endpoint handlers bound t w q
  /-- What is posted carries the caller's request, or behind some rounds the ticket of the latest answer,
  the claim that was gathered for it, the scopes of the caller, and nothing else. -/
  carried : ∀ w up after, Walk (rounds limit endpoint handlers bound limit t) w
      (ask (I := TicketExchange) (.post up) after) →
    ∃ b d req, w = b ++ d ∧ Due endpoint handlers bound t (posted w).length b req ∧ Carried req up
  /-- Each value comes with the event that it reports. -/
  ended : ∀ w v, Walk (rounds limit endpoint handlers bound limit t) w (done v) →
    Ends limit endpoint handlers bound t w v
  bounded : ∀ w q, Walk (rounds limit endpoint handlers bound limit t) w q →
    Bounded limit endpoint bound w
  granted : ∀ w v token, Walk (rounds limit endpoint handlers bound limit t) w (done v) →
    (v = .ok token ↔ ∃ post r, (posted w).getLast? = some (post, .ok r) ∧ Grants r token)
  /-- An error of a handler is passed on as it is, even if it has the form of the bound. -/
  exhausted : ∀ w v, Walk (rounds limit endpoint handlers bound limit t) w (done v) →
    (v = .error (.maxIterations limit) ↔
      (∃ req, Due endpoint handlers bound t limit w req) ∨
        ∃ c i, w = c ++ [⟨.gather i, .error (.maxIterations limit)⟩])

/-- Every exchange keeps to its protocol, and every run of it in a world is such an exchange, in which
the session makes the proofs and the handlers gather. -/
theorem exchange_protocol (limit : Nat) (endpoint : Url) (handlers : List ClaimHandler)
    (bound : Option String) (t : TicketRequest) :
    Protocol limit endpoint handlers bound t ∧
      ∀ {σ : Type} (session : Session) (answer : (op : World.Op) → σ → World.Answer op × σ) (s : σ),
        ∃ w, Walk (rounds limit endpoint handlers bound limit t) w
            (done ((run limit session endpoint t handlers bound).run answer s).1) ∧
          Served (inWorld session handlers) w
            ((run limit session endpoint t handlers bound).transcript answer s) := by
  have hended : ∀ w v, Walk (rounds limit endpoint handlers bound limit t) w (done v) →
      Ends limit endpoint handlers bound t w v :=
    fun w v h => stands_of_walk .first (Nat.zero_add _) h
  have hasked : ∀ w q after, Walk (rounds limit endpoint handlers bound limit t) w (ask q after) →
      Asked limit endpoint handlers bound t w q :=
    fun w q after h => stands_of_walk .first (Nat.zero_add _) h
  refine ⟨⟨hasked, ?_, hended, ?_, ?_, ?_⟩, ?_⟩
  · intro w up after h
    cases hasked w _ after h with
    | post hposts => exact hposts.carried
  · intro w q h
    cases q with
    | done v => exact (hended w v h).bounded
    | ask q after => exact (hasked w q after h).bounded
  · intro w v token h
    exact (hended w v h).granted_iff
  · intro w v h
    exact (hended w v h).exhausted_iff h
  · intro σ session answer s
    exact (walk_transcript answer _ s).of_interpret_done

end TicketExchange

/-! ### An answer in another form, and a handler that has had enough -/

namespace TicketExchange

namespace Dialogue

def endpoint : Url := { scheme := "urn", path := "as" }

def request : TicketRequest := { ticket := "t1" }

def guest : Session := ⟨0, "guest", .anonymous⟩

/-- A list, whose first item is read as the error and whose third as the ticket. -/
def listed : Response where
  uri := endpoint
  status := 403
  body := Utf8.encode "[\"need_info\",null,\"t2\"]"

/-- A question for a claim. -/
def question : Response where
  uri := endpoint
  status := 403
  body := Utf8.encode ("\x7b\"error\":\"need_info\",\"ticket\":\"t2\"," ++
    "\"required_claims\":[\x7b\"claim_type\":\"c\"\x7d]\x7d")

/-- A handler that fails as an exchange of two rounds does. -/
def weary : ClaimHandler where
  format := "f"
  issuer := "i"
  claimType := "c"
  gather := done (.error (.maxIterations 2))

/-- An outside in which every request gets one answer. -/
def outside (answer : Response) : Outside Unit := .still fun _ => .ok answer

end Dialogue

open Dialogue in
/-- An answer that is a list has no member for the error, and yet asks for claims.  And the bound is
reported after one round of two if a handler reports it. -/
theorem exchange_unlimited :
    (Json.parse? listed.body).any (· matches .list _) = true ∧
      (run 2 guest endpoint request [] none).transmitted (outside listed) ({}, ()) =
        [request.post endpoint, TicketRequest.post endpoint { ticket := "t2" }] ∧
      ((run 2 guest endpoint request [weary] none).alone (outside question) ({}, ())).1 =
        .error (.maxIterations 2) ∧
      (run 2 guest endpoint request [weary] none).transmitted (outside question) ({}, ()) =
        [request.post endpoint] :=
  ⟨by decide +kernel, by decide +kernel, by decide +kernel, by decide +kernel⟩

end TicketExchange
end Countersign
