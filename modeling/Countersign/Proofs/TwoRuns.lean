import Countersign.Proofs.ChallengeEquality
import Countersign.Proofs.CompactTokens
import Countersign.Proofs.Footprint
import Countersign.Proofs.Selection
import Countersign.Proofs.TicketRounds
import Mathlib

/-!
# Two runs — negotiating equal challenges under different randomness

Two runs of a negotiation draw different random octets, so the proofs of possession that they send
have different identifiers and signatures.  Nothing else of what they do depends on these octets.  This
file relates the programs that behave alike in this sense, and the worlds that do not look at the
identifier of a proof:

* `Request.Alike` — requests that are equal, or carry proofs that differ in their identifier only;
* `Run.Alike V p q` — programs that ask alike whatever is drawn, and end in values that `V` relates;
* `Run.Steady p` — a program that is alike to itself, and ends in equal values;
* `Outside.Agrees o o' R` — two worlds that answer alike, but for what is drawn.

`Run.Alike.bind` lets such programs follow each other, and `Run.Alike.alone` runs them side by side.
What the library negotiates is steady, and equal challenges are negotiated by the same program, so two
runs on equal challenges agree.
-/

namespace Countersign

open Program

/-! ## Proofs and requests -/

/-- The proofs of two runs for a request: the same refusal, or tokens by one key, for one moment, that
differ in their identifier. -/
inductive PossessionProof.Alike (r : Request) :
    Except ProofError (Option String) → Except ProofError (Option String) → Prop where
  | same (x : Except ProofError (Option String)) : Alike r x x
  | made (k : ProofKey) (identifier identifier' : String) (now : Instant) :
      Alike r (.ok (some (token k identifier r.method r.uri now)))
        (.ok (some (token k identifier' r.method r.uri now)))

/-- Equal requests, or one request with two such proofs. -/
inductive Request.Alike : Request → Request → Prop where
  | same (r : Request) : Alike r r
  | proven (r : Request) (k : ProofKey) (identifier identifier' : String) (now : Instant) :
      Alike (r.setHeader "dpop" (PossessionProof.token k identifier r.method r.uri now))
        (r.setHeader "dpop" (PossessionProof.token k identifier' r.method r.uri now))

/-! ## Programs that ask alike -/

/-- Whether a question draws no random octets. -/
def Act.SparesEntropy : Act → Prop
  | .entropy _ => False
  | _ => True

/-- Whether two programs ask alike, whatever octets each of them draws as long as they get equally many,
and end in related values. -/
inductive Run.Alike {α : Type} (V : α → α → Prop) : Run α → Run α → Prop where
  | done {a b : α} : V a b → Alike V (.done a) (.done b)
  | ask {op : Act} {next next' : op.Answer → Run α} :
      op.SparesEntropy → (∀ answer, Alike V (next answer) (next' answer)) →
        Alike V (.ask (I := World) op next) (.ask (I := World) op next')
  | draw {count : Nat} {next next' : Bytes → Run α} :
      (∀ octets octets' : Bytes, octets.length = octets'.length →
        Alike V (next octets) (next' octets')) →
        Alike V (.ask (I := World) (.entropy count) next) (.ask (I := World) (.entropy count) next')
  | send {r r' : Request} {next next' : Except TransportError Response → Run α} :
      r.Alike r' → (∀ answer, Alike V (next answer) (next' answer)) →
        Alike V (.ask (I := World) (.transmit r) next) (.ask (I := World) (.transmit r') next')

/-- Whether a program does the same whatever it draws. -/
def Run.Steady {α : Type} (p : Run α) : Prop := Run.Alike Eq p p

namespace Run

variable {α β : Type} {V : α → α → Prop} {W : β → β → Prop} {p q : Run α}

/-- Programs that ask alike can be followed by programs that ask alike on related values. -/
theorem Alike.bind {f g : α → Run β} (h : Alike V p q)
    (hrest : ∀ a b, V a b → Alike W (f a) (g b)) : Alike W (p.bind f) (q.bind g) := by
  induction h with
  | done hvalue => exact hrest _ _ hvalue
  | ask hop _ ih => exact .ask hop ih
  | draw _ ih => exact .draw ih
  | send hsent _ ih => exact .send hsent ih

theorem Steady.bind {f : α → Run β} (h : p.Steady) (hrest : ∀ a, (f a).Steady) :
    Run.Steady (p.bind f) := by
  refine Alike.bind h ?_
  rintro a b rfl
  exact hrest a

theorem Steady.done (a : α) : Run.Steady (.done a) := Alike.done rfl

theorem Steady.map (f : α → β) (h : p.Steady) : Run.Steady (p.map f) :=
  h.bind fun a => .done (f a)

/-- A question that draws nothing is answered alike in both runs. -/
theorem Steady.perform {op : Act} (h : op.SparesEntropy) :
    Run.Steady (Program.perform (I := World) op) :=
  Alike.ask h fun answer => Steady.done answer

/-- A program that draws nothing is steady. -/
theorem steady_of_only (h : p.Only Act.SparesEntropy) : p.Steady := by
  induction p with
  | done a => exact .done a
  | ask op next ih => exact Alike.ask h.1 fun answer => ih answer (h.2 answer)

end Run

/-! ## Worlds that answer alike -/

/-- Two worlds agree as long as a relation of theirs holds: they answer alike requests equally, and all
other questions too, but that what is drawn is equally long only; and the relation lasts. -/
structure Outside.Agrees {σ σ' : Type} (o : Outside σ) (o' : Outside σ') (R : σ → σ' → Prop) :
    Prop where
  transmit : ∀ {w w' r r'}, R w w' → r.Alike r' →
    (o.transmit r w).1 = (o'.transmit r' w').1 ∧ R (o.transmit r w).2 (o'.transmit r' w').2
  clock : ∀ {w w'}, R w w' → o.clock w = o'.clock w'
  entropy : ∀ {w w'} count, R w w' →
    (o.entropy count w).1.length = (o'.entropy count w').1.length ∧
      R (o.entropy count w).2 (o'.entropy count w').2
  freshToken : ∀ {w w'} id, R w w' →
    (o.freshToken id w).1 = (o'.freshToken id w').1 ∧
      R (o.freshToken id w).2 (o'.freshToken id w').2
  note : ∀ {w w'} line, R w w' → R (o.note line w) (o'.note line w')
  fileAt : ∀ {w w'} path, R w w' → o.fileAt path w = o'.fileAt path w'

section

variable {α σ σ' : Type} {o : Outside σ} {o' : Outside σ'} {R : σ → σ' → Prop} {w : σ} {w' : σ'}

/-- As long as the stores are the same, a question that draws nothing is answered alike. -/
theorem Outside.Agrees.answer (h : o.Agrees o' R) (hw : R w w') (s : Store) {op : Act}
    (hop : op.SparesEntropy) :
    (o.answer s w op).1 = (o'.answer s w' op).1 ∧ R (o.answer s w op).2 (o'.answer s w' op).2 := by
  match op, hop with
  | .transmit r, _ => exact h.transmit hw (.same r)
  | .clock, _ => exact ⟨h.clock hw, hw⟩
  | .freshToken id, _ => exact h.freshToken id hw
  | .note line, _ => exact ⟨rfl, h.note line hw⟩
  | .fileAt path, _ => exact ⟨h.fileAt path hw, hw⟩
  -- the store answers for itself, and these show the clock beside it
  | .look id, _ => exact ⟨congrArg (Prod.mk _) (h.clock hw), hw⟩
  | .settle id outcome, _ => exact ⟨h.clock hw, hw⟩
  | .recall id key, _ => exact ⟨congrArg (Prod.mk _) (h.clock hw), hw⟩
  | .establish _ _ _, _ | .pause, _ | .acquire _, _ | .release _, _ | .forget _, _
  | .discard _ _, _ | .retain _ _ _, _ | .wipe _, _ | .document _, _ | .keepDocument _ _, _ =>
      exact ⟨rfl, hw⟩

theorem Run.alone_ask (op : Act) (next : op.Answer → Run α) (s : Store) (w : σ) :
    Run.alone o (.ask (I := World) op next) (s, w) =
      (next (o.answer s w op).1).alone o (op.onStore s, (o.answer s w op).2) := rfl

theorem Run.transmitted_ask (op : Act) (next : op.Answer → Run α) (s : Store) (w : σ) :
    Run.transmitted o (.ask (I := World) op next) (s, w) =
      op.request?.toList ++
        (next (o.answer s w op).1).transmitted o (op.onStore s, (o.answer s w op).2) := by
  have htrace : trace o.step (.ask (I := World) op next) (s, w) =
      op :: trace o.step (next (o.answer s w op).1) (op.onStore s, (o.answer s w op).2) := rfl
  rw [transmitted, htrace, List.filterMap_cons]
  cases op.request? with
  | none => rfl
  | some r => rfl

/-- Side by side, programs that ask alike get equal answers as long as the stores are the same: they
end in related values, leave the same store, and send alike requests in the same order. -/
theorem Run.Alike.alone {V : α → α → Prop} {p q : Run α} (h : Run.Alike V p q)
    (hagrees : o.Agrees o' R) (hw : R w w') (s : Store) :
    V (p.alone o (s, w)).1 (q.alone o' (s, w')).1 ∧
      (p.alone o (s, w)).2.1 = (q.alone o' (s, w')).2.1 ∧
      List.Forall₂ Request.Alike (p.transmitted o (s, w)) (q.transmitted o' (s, w')) := by
  induction h generalizing s w w' with
  | done hvalue => exact ⟨hvalue, rfl, .nil⟩
  | @ask op next next' hop _ ih =>
      -- both runs go on behind the same answer
      rcases hagrees.answer hw s hop with ⟨hanswer, hw₁⟩
      rcases ih (o.answer s w op).1 hw₁ (op.onStore s) with ⟨hvalue, hstore, hsent⟩
      rw [hanswer] at hvalue hstore hsent
      refine ⟨?_, ?_, ?_⟩
      · rw [alone_ask, alone_ask, hanswer]
        exact hvalue
      · rw [alone_ask, alone_ask, hanswer]
        exact hstore
      · rw [transmitted_ask, transmitted_ask, hanswer]
        cases op.request? with
        | none => exact hsent
        | some r => exact .cons (.same r) hsent
  | @draw count next next' _ ih =>
      rcases hagrees.entropy count hw with ⟨hlength, hw₁⟩
      exact ih _ _ hlength hw₁ s
  | @send r r' next next' halike _ ih =>
      rcases hagrees.transmit hw halike with ⟨hanswer, hw₁⟩
      rcases ih (o.transmit r w).1 hw₁ s with ⟨hvalue, hstore, hsent⟩
      rw [hanswer] at hvalue hstore hsent
      refine ⟨?_, ?_, ?_⟩
      · show V ((next (o.transmit r w).1).alone o (s, (o.transmit r w).2)).1 _
        rw [hanswer]
        exact hvalue
      · show ((next (o.transmit r w).1).alone o (s, (o.transmit r w).2)).2.1 = _
        rw [hanswer]
        exact hstore
      · rw [transmitted_ask, transmitted_ask]
        show List.Forall₂ Request.Alike
          (r :: (next (o.transmit r w).1).transmitted o (s, (o.transmit r w).2)) _
        rw [hanswer]
        exact .cons halike hsent

end

/-! ## Proofs of a session -/

/-- A proof is made alike whatever is drawn for its identifier. -/
theorem Session.proof_alike (s : Session) (thumbprint : String) (r : Request) :
    Run.Alike (PossessionProof.Alike r) (s.proof thumbprint r) (s.proof thumbprint r) := by
  unfold proof
  cases s.keyring.bind fun ring => (ring.algorithm? thumbprint).map fun a => (ring, a) with
  | none => exact .done (.same _)
  | some found =>
      rcases found with ⟨ring, algorithm⟩
      dsimp only
      unfold PossessionProof.make
      cases ring.key? algorithm with
      | none => exact .done (.same _)
      | some k =>
          -- the identifier comes from the first octets, and the moment from the clock
          refine .draw fun octets octets' _ => .ask trivial fun now => .draw ?_
          -- of the last octets only their number matters
          intro blinding blinding' hlength
          dsimp only [bind_eq_bind, done_bind]
          by_cases hshort : blinding.length < PossessionProof.blindingSize k
          · have hshort' : blinding'.length < PossessionProof.blindingSize k := hlength ▸ hshort
            rw [if_pos hshort, if_pos hshort']
            exact .done (.same _)
          · have hshort' : ¬ blinding'.length < PossessionProof.blindingSize k := hlength ▸ hshort
            rw [if_neg hshort, if_neg hshort']
            exact .done (.made k _ _ now)

/-! ## Exchanges -/

namespace TicketExchange

/-- What two runs post: the same refusal, or alike requests. -/
inductive PostsAlike : Except UmaError Request → Except UmaError Request → Prop where
  | refused (e : UmaError) : PostsAlike (.error e) (.error e)
  | posted {r r' : Request} : r.Alike r' → PostsAlike (.ok r) (.ok r')

variable {session : Session} {handlers : List ClaimHandler}

theorem proven_alike (post : Request) (bound : Option String) :
    Run.Alike PostsAlike ((proven post bound).interpret (inWorld session handlers))
      ((proven post bound).interpret (inWorld session handlers)) := by
  cases bound with
  | none => exact .done (.posted (.same post))
  | some thumbprint =>
      refine (session.proof_alike thumbprint post).bind ?_
      intro x x' hx
      cases hx with
      | same x =>
          rcases x with e | _ | proof
          · exact .done (.refused _)
          · exact .done (.refused _)
          · -- the same text is refused or set in both runs
            refine .done ?_
            cases withProof post proof with
            | error e => exact .refused e
            | ok r => exact .posted (.same r)
      | made k identifier identifier' now =>
          refine .done ?_
          have hset (i : String) :
              withProof post (PossessionProof.token k i post.method post.uri now) =
                .ok (post.setHeader "dpop" (PossessionProof.token k i post.method post.uri now)) :=
            withProof_eq_ok.2 ⟨Token.isValue_assemble _ _ _, rfl⟩
          rw [hset, hset]
          exact .posted (.proven post k identifier identifier' now)

theorem gathered_steady (hgather : ∀ h ∈ handlers, Run.Steady h.gather) (n : NeedInfo) :
    Run.Steady ((gathered handlers n).interpret (inWorld session handlers)) := by
  unfold gathered
  cases ClaimHandler.choose handlers n.required with
  | none => exact .done _
  | some i =>
      refine Run.Steady.bind ?_ fun claim => .done claim
      show Run.Steady (ClaimHandler.gatherAt handlers i)
      unfold ClaimHandler.gatherAt
      cases hi : handlers[i]? with
      | none => exact .done _
      | some h => exact hgather h (List.mem_of_getElem? hi)

/-- Round for round two exchanges post alike requests and get the same answers, so they ask for the same
claims and end alike. -/
theorem rounds_steady (hgather : ∀ h ∈ handlers, Run.Steady h.gather) (limit : Nat)
    (endpoint : Url) (bound : Option String) (left : Nat) (t : TicketRequest) :
    Run.Steady ((rounds limit endpoint handlers bound left t).interpret
      (inWorld session handlers)) := by
  induction left generalizing t with
  | zero => exact .done _
  | succ left ih =>
      rw [rounds_succ, interpret_bind]
      refine (proven_alike (t.post endpoint) bound).bind ?_
      intro x x' hx
      cases hx with
      | refused e => exact .done rfl
      | posted halike =>
          refine .send halike fun answer => ?_
          cases answer with
          | error e => exact .done rfl
          | ok r =>
              show Run.Steady (Program.interpret (inWorld session handlers)
                (afterVerdict handlers _ (verdict r)))
              cases verdict r with
              | granted token => exact .done _
              | refused e => exact .done _
              | asked n =>
                  rw [afterVerdict, interpret_bind]
                  refine (gathered_steady hgather n).bind ?_
                  intro claim
                  cases claim with
                  | error e => exact .done _
                  | ok claim => exact ih _

end TicketExchange

/-! ## Negotiations -/

/-- The long-lived credential is got without drawing anything. -/
theorem Session.credential_steady (s : Session) (name : String) :
    Run.Steady (s.credential name) := by
  have hrefresh : s.refresh.Only Act.SparesEntropy :=
    s.refresh_only_of trivial (fun _ => trivial) trivial fun _ _ => trivial
  exact Run.steady_of_only (credential_only_of name
    (Slot.getOrRefresh_only trivial trivial trivial hrefresh fun _ _ _ => trivial))

theorem Discovery.document_steady (server : Url) : Run.Steady (document server) :=
  Run.steady_of_only
    (document_only_of (fun _ => trivial) (fun _ _ => trivial) (fun _ _ => trivial) server)

/-- A ticket is exchanged alike whatever is drawn for the proofs. -/
theorem TicketProvider.acquire_steady {p : TicketProvider}
    (hgather : ∀ h ∈ p.handlers, Run.Steady h.gather) (c : TicketChallenge) (s : Session) :
    Run.Steady (p.acquire c s) := by
  refine (s.credential_steady IdToken.name).bind ?_
  intro idToken
  cases idToken with
  | error e => exact .done _
  | ok idToken =>
      refine (Discovery.document_steady c.server).bind ?_
      intro document
      cases document with
      | error e => exact .done _
      | ok m =>
          refine Run.Steady.bind (TicketExchange.rounds_steady hgather _ _ _ _ _) ?_
          intro answer
          cases answer with
          | error e => exact .done _
          | ok token => exact Run.Steady.bind (.perform trivial) fun now => .done _

namespace Registry

variable {settings : NegotiationSettings} {tickets : TicketProvider}

/-- What the library negotiates is steady, if gathering claims is. -/
theorem standard_steady (hgather : ∀ h ∈ tickets.handlers, Run.Steady h.gather) (s : Session)
    (request : Request) (cs : List Challenge) :
    Run.Steady ((Registry.standard settings tickets).negotiate s request cs) := by
  unfold negotiate
  cases hselect : (Registry.standard settings tickets).select s cs with
  | none => exact .done _
  | some a =>
      have hacquire : Run.Steady (a.acquire s request (algorithms cs)) :=
        of_standard (P := fun b => Run.Steady (b.acquire s request (algorithms cs)))
          (fun needsProof => (s.credential_steady IdToken.name).map _)
          (fun c => tickets.acquire_steady hgather c s) hselect
      refine hacquire.bind ?_
      intro outcome
      cases outcome with
      | error e => exact .done _
      | ok c => exact Run.Steady.bind (.perform trivial) fun _ => .done _

/-- Equality of challenges is an equivalence that hashing respects, and no negotiation looks beyond it:
challenges that are pairwise equal lead to the same questions, answer for answer. Two runs on them, in
worlds that agree but for what is drawn, end alike, leave the same store, and send the same requests in
the same order but for the identifiers and signatures of their proofs. -/
theorem negotiation_of_equal {cs ds : List Challenge}
    (hsame : List.Forall₂ (fun c d => Challenge.same c d = true) cs ds) :
    (Equivalence (fun c d : Challenge => c.same d = true) ∧
      ∀ c d : Challenge, c.same d = true → c.hashKey = d.hashKey) ∧
    ∀ (settings : NegotiationSettings) (tickets : TicketProvider) (s : Session) (request : Request),
      (Registry.standard settings tickets).negotiate s request cs =
        (Registry.standard settings tickets).negotiate s request ds ∧
      ∀ {σ σ' : Type} {o : Outside σ} {o' : Outside σ'} {R : σ → σ' → Prop} {w : σ} {w' : σ'}
        (store : Store), (∀ h ∈ tickets.handlers, Run.Steady h.gather) → o.Agrees o' R → R w w' →
        let p := (Registry.standard settings tickets).negotiate s request cs
        let q := (Registry.standard settings tickets).negotiate s request ds
        (p.alone o (store, w)).1 = (q.alone o' (store, w')).1 ∧
          (p.alone o (store, w)).2.1 = (q.alone o' (store, w')).2.1 ∧
          List.Forall₂ Request.Alike (Run.transmitted o p (store, w))
            (Run.transmitted o' q (store, w')) := by
  refine ⟨⟨Challenge.same_equivalence, fun c d => Challenge.hashKey_congr⟩, ?_⟩
  intro settings tickets s request
  have hprogram := (standard_respects settings tickets).negotiate_eq s request hsame
  refine ⟨hprogram, ?_⟩
  intro σ σ' o o' R w w' store hgather hagrees hw p q
  -- one program runs twice
  have hq : q = p := hprogram.symm
  rw [hq]
  exact Run.Alike.alone (standard_steady hgather s request cs) hagrees hw store

/-! ### A challenge in two spellings -/

/-- A ticket challenge. -/
def spelled : Challenge := ⟨"UMA", Parameters.ofList [("as_uri", "urn:as"), ("ticket", "t")]⟩

/-- The same challenge, with other letters and in another order. -/
def respelled : Challenge := ⟨"uma", Parameters.ofList [("ticket", "t"), ("as_uri", "urn:as")]⟩

/-- A world in which every server refuses, time stands still, and one octet is drawn again and again. -/
def drawing (octet : UInt8) : Outside Unit where
  transmit _ w := (.ok { uri := { scheme := "urn", path := "as" }, status := 403 }, w)
  clock _ := ⟨0, 0⟩
  entropy count w := (List.replicate count octet, w)
  freshToken _ w := (.error (.negotiation "no source"), w)
  note _ w := w
  fileAt _ _ := .error .notFound

theorem drawing_agrees (a b : UInt8) : (drawing a).Agrees (drawing b) fun _ _ => True where
  transmit _ _ := ⟨rfl, trivial⟩
  clock _ := rfl
  entropy count _ := ⟨by simp [drawing], trivial⟩
  freshToken _ _ := ⟨rfl, trivial⟩
  note _ _ := trivial
  fileAt _ _ := rfl

/-- The server that the challenge names. -/
def namedServer : Url := { scheme := "urn", path := "as" }

/-- A session without identity. -/
def visitor : Session := ⟨0, "s", .anonymous⟩

/-- The request that was refused. -/
def refused : Request := Request.get { scheme := "urn", path := "r" }

theorem select_spelled :
    (Registry.standard {} {}).select visitor [spelled] =
      some (({} : TicketProvider).authenticator ⟨namedServer, "t"⟩) := by
  have hserver : Url.parse "urn:as" = .ok namedServer := by cbv
  have hscheme : spelled.isScheme uma = true := by decide
  have huri : spelled.parameter "as_uri" = some "urn:as" := by decide
  have hticket : spelled.parameter "ticket" = some "t" := by decide
  have hparts : TicketChallenge.ofChallenge spelled = .ok ⟨namedServer, "t"⟩ := by
    simp [TicketChallenge.ofChallenge, hscheme, huri, hserver, hticket]
  have hanswer : (Registry.standard {} {}).answer? visitor spelled =
      some (({} : TicketProvider).authenticator ⟨namedServer, "t"⟩) := by
    have hprovider : (Registry.standard {} {}).provider? spelled.scheme =
        some ({} : TicketProvider).provider := rfl
    have hsupports : visitor.supports spelled.scheme = true := by decide
    simp [answer?, hprovider, hsupports, TicketProvider.provider, hparts, Except.toOption]
  simp [select, candidates, hanswer, best]

/-- The session asks the server for its discovery document, and is refused. -/
theorem transmitted_spelled :
    Run.transmitted (drawing 0) ((Registry.standard {} {}).negotiate visitor refused [spelled])
      ({}, ()) = [Discovery.request (Discovery.location namedServer)] := by
  rw [negotiate, select_spelled]
  rfl

/-- Both spellings lead the session to the same end, and to the same server, whatever is drawn. -/
theorem negotiation_of_equal_respelled :
    spelled ≠ respelled ∧
      (((Registry.standard {} {}).negotiate visitor refused [spelled]).alone (drawing 0)
        ({}, ())).1 =
      (((Registry.standard {} {}).negotiate visitor refused [respelled]).alone (drawing 1)
        ({}, ())).1 ∧
      List.Forall₂ Request.Alike [Discovery.request (Discovery.location namedServer)]
        (Run.transmitted (drawing 1)
          ((Registry.standard {} {}).negotiate visitor refused [respelled]) ({}, ())) := by
  have hsame : List.Forall₂ (fun c d => Challenge.same c d = true) [spelled] [respelled] :=
    .cons (by decide) .nil
  have hruns := (negotiation_of_equal hsame).2 {} {} visitor refused
  have hboth := @hruns.2 Unit Unit (drawing 0) (drawing 1) (fun _ _ => True) () () {}
    (by simp) (drawing_agrees 0 1) trivial
  refine ⟨by decide, hboth.1, ?_⟩
  rw [← transmitted_spelled]
  exact hboth.2.2

end Registry
end Countersign
