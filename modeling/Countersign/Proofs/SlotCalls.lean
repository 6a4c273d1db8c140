import Countersign.Proofs.Interleaving
import Countersign.Session.Slot
import Mathlib.Data.List.Induction

/-!
# Calls on one slot

Any number of programs get or clear the long-lived credential of one session.  Every step of theirs
has its place in the protocol of the slot, and two facts about the whole store tie the steps of
different calls together: whoever is between `acquire` and `release` holds the lock, and the
generation of the slot counts the writes.

* `Slot.Call` — a call that gets the credential, with its refresh, or one that clears the slot;
* `Slot.Place` — where a call that gets the credential is, with what it has asked before;
* `Slot.Asks` — what such a call asks, with what it has asked before;
* `Slot.Ends` — how it ends;
* `Slot.Traffic` — the runs of calls on a slot whose lock is free at first;
* `Slot.Traffic.locks` — the lock has at most one holder;
* `Slot.Traffic.generation` — the generation counts the writes.
-/

namespace Countersign
namespace Slot

open Program

/-- What a refresh or a call that gets the credential ends in. -/
abbrev Outcome : Type := Except AuthError (Option Credential)

/-- A look at a slot: its state, and the time. -/
abbrev Look : Type := SlotState × Instant

/-! ## What the operations do to one slot -/

/-- The operations that only a call on the slot makes. -/
def Respects (id : SessionId) : Act → Prop
  | .acquire i => i ≠ id
  | .release i => i ≠ id
  | .settle i _ => i ≠ id
  | .establish i _ _ => i ≠ id
  | _ => True

/-- The operations that take the lock. -/
def takes (id : SessionId) : Act → Bool
  | .acquire i => i == id
  | _ => false

/-- The operations that write the slot. -/
def writes (id : SessionId) : Act → Bool
  | .settle i _ => i == id
  | .forget i => i == id
  | _ => false

/-- The operations that end a refresh. -/
def settles (id : SessionId) : Act → Bool
  | .settle i _ => i == id
  | _ => false

/-- The operations that set up a session. -/
def establishes (id : SessionId) : Act → Bool
  | .establish i _ _ => i == id
  | _ => false

theorem writes_of_settles {id : SessionId} {op : Act} (h : settles id op = true) :
    writes id op = true := by
  cases op with
  | settle i outcome => exact h
  | _ => cases h

/-- A slot is written by outcomes and by clears. -/
theorem writes_eq_false_of_ne {id : SessionId} {op : Act} (hsettle : settles id op = false)
    (hclear : op ≠ .forget id) : writes id op = false := by
  cases op with
  | settle i outcome => exact hsettle
  | forget i =>
      have hi : i ≠ id := fun heq => hclear (by rw [heq])
      simpa [writes] using hi
  | _ => rfl

theorem takes_iff {id : SessionId} {op : Act} : takes id op = true ↔ op = .acquire id := by
  cases op with
  | acquire i => simp [takes]
  | _ => simp [takes]

theorem Respects.ne_release {id : SessionId} {op : Act} (h : Respects id op) : op ≠ .release id := by
  rintro rfl
  exact h rfl

theorem Respects.settles_eq_false {id : SessionId} {op : Act} (h : Respects id op) :
    settles id op = false := by
  cases op with
  | settle i outcome =>
      have hi : i ≠ id := h
      simpa [settles] using hi
  | _ => rfl

theorem Respects.establishes_eq_false {id : SessionId} {op : Act} (h : Respects id op) :
    establishes id op = false := by
  cases op with
  | establish i settings c =>
      have hi : i ≠ id := h
      simpa [establishes] using hi
  | _ => rfl

/-- Nothing but writing it changes a slot. -/
theorem slot_onStore {id : SessionId} {op : Act} (s : Store) (hwrite : writes id op = false)
    (hnew : establishes id op = false) : ((op.onStore s).vault id).slot = (s.vault id).slot := by
  cases op
  all_goals try rfl
  all_goals simp only [Act.onStore, Store.update_vault, writes, establishes, beq_eq_false_iff_ne] at *
  all_goals split <;> first | rfl | (subst_vars; contradiction)

/-- Every write counts. -/
theorem generation_onStore {id : SessionId} {op : Act} (s : Store) (hwrite : writes id op = true) :
    ((op.onStore s).vault id).slot.generation = (s.vault id).slot.generation + 1 := by
  cases op with
  | settle i outcome =>
      have hi : i = id := by simpa [writes] using hwrite
      subst hi
      rcases outcome with reason | c <;> simp [Act.onStore, SlotState.settled]
  | forget i =>
      have hi : i = id := by simpa [writes] using hwrite
      subst hi
      simp [Act.onStore, SlotState.cleared]
  | _ => cases hwrite

/-- Nothing but taking the lock and giving it back changes it. -/
theorem locked_onStore {id : SessionId} {op : Act} (s : Store) (htake : takes id op = false)
    (hgive : op ≠ .release id) (hnew : establishes id op = false) :
    ((op.onStore s).vault id).locked = (s.vault id).locked := by
  cases op
  all_goals try rfl
  all_goals simp only [Act.onStore, Store.update_vault, takes, establishes, beq_eq_false_iff_ne] at *
  all_goals split <;> first | rfl | (subst_vars; contradiction)

/-! ## The program of one call -/

/-- What the program that refreshed does at last. -/
def finish (id : SessionId) (outcome : Outcome) : Run Outcome :=
  ask (I := World) (.settle id (outcomeText outcome)) fun now =>
    ask (I := World) (.release id) fun _ => done (own outcome now)

theorem getOrRefresh_eq (id : SessionId) (refresh : Run Outcome) :
    getOrRefresh id refresh = ask (I := World) (.look id) fun x =>
      match Credential.liveAt x.2 x.1.credential with
      | some c => done (.ok (some c))
      | none => ask (I := World) (.acquire id) fun _ => underLock id x.1.generation refresh := rfl

theorem underLock_eq (id : SessionId) (generation : Nat) (refresh : Run Outcome) :
    underLock id generation refresh = ask (I := World) (.look id) fun y =>
      if y.1.generation ≠ generation then
        ask (I := World) (.release id) fun _ => done (shared y.1 y.2)
      else refresh.bind (finish id) := rfl

/-! ## Refreshes -/

/-- Whether a program takes and frees the lock and writes outcomes only by calls on the slot.  Such a
call starts with taking the lock, so nothing is asked of what follows that. -/
def Tame (id : SessionId) {α : Type} : Run α → Prop
  | .done _ => True
  | .ask op next => takes id op = true ∨ (Respects id op ∧ ∀ answer, Tame id (next answer))

/-- Whether the lock was taken at most once. -/
def Once (id : SessionId) (t : Transcript World) : Prop :=
  t.countP (fun e => takes id e.1) ≤ 1

namespace Tame

variable {id : SessionId} {α γ : Type}

theorem of_only {p : Run α} (h : p.Only (Respects id)) : Tame id p := by
  induction p with
  | done a => trivial
  | ask op next ih => exact .inr ⟨h.1, fun answer => ih answer (h.2 answer)⟩

theorem bind {p : Run α} {f : α → Run γ} (hp : Tame id p) (hf : ∀ a, Tame id (f a)) :
    Tame id (p.bind f) := by
  induction p with
  | done a => exact hf a
  | ask op next ih =>
      rcases hp with htake | ⟨hop, hnext⟩
      · exact .inl htake
      · exact .inr ⟨hop, fun answer => ih answer (hnext answer)⟩

theorem getOrRefresh (refresh : Run Outcome) : Tame id (Slot.getOrRefresh id refresh) := by
  rw [getOrRefresh_eq]
  refine .inr ⟨trivial, ?_⟩
  intro x
  dsimp only
  split
  · trivial
  · exact .inl (takes_iff.2 rfl)

theorem clear : Tame id (Slot.clear id) := .inr ⟨trivial, fun _ => trivial⟩

/-- A tame program that has not taken the lock has left everything to the calls on the slot. -/
theorem walk {p q : Run α} {t : Transcript World} (hp : Tame id p) (h : Walk p t q)
    (hno : ∀ e ∈ t, takes id e.1 = false) : (∀ e ∈ t, Respects id e.1) ∧ Tame id q := by
  induction h with
  | here => exact ⟨by simp, hp⟩
  | @answered op next answer t q _ ih =>
      rcases hp with htake | ⟨hop, hnext⟩
      · rw [hno _ (.head _)] at htake
        cases htake
      · rcases ih (hnext answer) (fun e he => hno e (.tail _ he)) with ⟨ht, hq⟩
        refine ⟨?_, hq⟩
        intro e he
        rcases List.mem_cons.1 he with rfl | he
        · exact hop
        · exact ht e he

end Tame

/-! ## The protocol of one call -/

/-- Whether there is no live credential at a look. -/
def Missed (x : Look) : Prop := Credential.liveAt x.2 x.1.credential = none

/-- A call that has looked, queued for the lock and looked again. -/
def opening (id : SessionId) (x y : Look) : Transcript World :=
  [⟨.look id, x⟩, ⟨.acquire id, ()⟩, ⟨.look id, y⟩]

/-- Where a call that gets the credential is, with what it has asked before. -/
inductive Place (id : SessionId) (refresh : Run Outcome) : Transcript World → Run Outcome → Prop where
  | enter : Place id refresh [] (getOrRefresh id refresh)
  | hit {x : Look} {c : Credential} : Credential.liveAt x.2 x.1.credential = some c →
      Place id refresh [⟨.look id, x⟩] (done (.ok (some c)))
  | queue {x : Look} : Missed x →
      Place id refresh [⟨.look id, x⟩]
        (ask (I := World) (.acquire id) fun _ => underLock id x.1.generation refresh)
  | check {x : Look} : Missed x →
      Place id refresh [⟨.look id, x⟩, ⟨.acquire id, ()⟩] (underLock id x.1.generation refresh)
  | yield {x y : Look} : Missed x → y.1.generation ≠ x.1.generation →
      Place id refresh (opening id x y)
        (ask (I := World) (.release id) fun _ => done (shared y.1 y.2))
  | yielded {x y : Look} : Missed x → y.1.generation ≠ x.1.generation →
      Place id refresh (opening id x y ++ [⟨.release id, ()⟩]) (done (shared y.1 y.2))
  | work {x y : Look} {u : Transcript World} {op : Act} {rest : op.Answer → Run Outcome} :
      Missed x → y.1.generation = x.1.generation → Walk refresh u (ask (I := World) op rest) →
      Place id refresh (opening id x y ++ u)
        (ask (I := World) op fun answer => (rest answer).bind (finish id))
  | write {x y : Look} {u : Transcript World} {outcome : Outcome} :
      Missed x → y.1.generation = x.1.generation → Walk refresh u (done outcome) →
      Place id refresh (opening id x y ++ u) (finish id outcome)
  | leave {x y : Look} {u : Transcript World} {outcome : Outcome} (now : Instant) :
      Missed x → y.1.generation = x.1.generation → Walk refresh u (done outcome) →
      Place id refresh (opening id x y ++ (u ++ [⟨.settle id (outcomeText outcome), now⟩]))
        (ask (I := World) (.release id) fun _ => done (own outcome now))
  | left {x y : Look} {u : Transcript World} {outcome : Outcome} (now : Instant) :
      Missed x → y.1.generation = x.1.generation → Walk refresh u (done outcome) →
      Place id refresh
        (opening id x y ++ (u ++ [⟨.settle id (outcomeText outcome), now⟩, ⟨.release id, ()⟩]))
        (done (own outcome now))

theorem place_of_walk {id : SessionId} {refresh : Run Outcome} {t : Transcript World}
    {q : Run Outcome} (h : Walk (getOrRefresh id refresh) t q) : Place id refresh t q := by
  rw [getOrRefresh_eq] at h
  rcases walk_ask_iff.1 h with ⟨rfl, rfl⟩ | ⟨x, t₁, rfl, h₁⟩
  · exact .enter
  · -- a live credential ends the call at its first look
    cases hlive : Credential.liveAt x.2 x.1.credential with
    | some c =>
        rw [hlive] at h₁
        rcases walk_done_iff.1 h₁ with ⟨rfl, rfl⟩
        exact .hit hlive
    | none =>
        rw [hlive] at h₁
        rcases walk_ask_iff.1 h₁ with ⟨rfl, rfl⟩ | ⟨_, t₂, rfl, h₂⟩
        · exact .queue hlive
        · rw [underLock_eq] at h₂
          rcases walk_ask_iff.1 h₂ with ⟨rfl, rfl⟩ | ⟨y, t₃, rfl, h₃⟩
          · exact .check hlive
          · -- the generations of the two looks decide whether the call refreshes
            by_cases hgen : y.1.generation = x.1.generation
            · rw [if_neg (not_not.2 hgen)] at h₃
              rcases h₃.of_bind_or with ⟨op, rest, hwork, rfl⟩ | ⟨outcome, u, t₄, rfl, hend, h₄⟩
              · exact .work hlive hgen hwork
              · -- behind the refresh come the outcome and the lock
                rcases walk_ask_iff.1 h₄ with ⟨rfl, rfl⟩ | ⟨now, t₅, rfl, h₅⟩
                · rw [List.append_nil]
                  exact .write hlive hgen hend
                · rcases walk_ask_iff.1 h₅ with ⟨rfl, rfl⟩ | ⟨_, t₆, rfl, h₆⟩
                  · exact .leave now hlive hgen hend
                  · rcases walk_done_iff.1 h₆ with ⟨rfl, rfl⟩
                    exact .left now hlive hgen hend
            · rw [if_pos hgen] at h₃
              rcases walk_ask_iff.1 h₃ with ⟨rfl, rfl⟩ | ⟨_, t₄, rfl, h₄⟩
              · exact .yield hlive hgen
              · rcases walk_done_iff.1 h₄ with ⟨rfl, rfl⟩
                exact .yielded hlive hgen

/-- What a call that gets the credential asks, with what it has asked before. -/
inductive Asks (id : SessionId) (refresh : Run Outcome) : Transcript World → Act → Prop where
  | enter : Asks id refresh [] (.look id)
  | queue {x : Look} : Missed x → Asks id refresh [⟨.look id, x⟩] (.acquire id)
  | check {x : Look} : Missed x → Asks id refresh [⟨.look id, x⟩, ⟨.acquire id, ()⟩] (.look id)
  | yield {x y : Look} :
      Missed x → y.1.generation ≠ x.1.generation → Asks id refresh (opening id x y) (.release id)
  | work {x y : Look} {u : Transcript World} {op : Act} {next : op.Answer → Run Outcome} :
      Missed x → y.1.generation = x.1.generation → Walk refresh u (ask (I := World) op next) →
      (∀ e ∈ u, Respects id e.1) → takes id op = true ∨ Respects id op →
      Asks id refresh (opening id x y ++ u) op
  | write {x y : Look} {u : Transcript World} {outcome : Outcome} :
      Missed x → y.1.generation = x.1.generation → Walk refresh u (done outcome) →
      (∀ e ∈ u, Respects id e.1) →
      Asks id refresh (opening id x y ++ u) (.settle id (outcomeText outcome))
  | leave {x y : Look} {u : Transcript World} {outcome : Outcome} (now : Instant) :
      Missed x → y.1.generation = x.1.generation → Walk refresh u (done outcome) →
      (∀ e ∈ u, Respects id e.1) →
      Asks id refresh (opening id x y ++ (u ++ [⟨.settle id (outcomeText outcome), now⟩]))
        (.release id)

/-- Behind the opening of a call only its refresh can take the lock. -/
theorem Once.respects {id : SessionId} {x y : Look} {u v : Transcript World} {p q : Run Outcome}
    (honce : Once id (opening id x y ++ (u ++ v))) (hp : Tame id p) (h : Walk p u q) :
    (∀ e ∈ u, Respects id e.1) ∧ Tame id q := by
  refine hp.walk h ?_
  intro e he
  -- the opening has taken the lock already
  have hzero : u.countP (fun e => takes id e.1) = 0 := by
    have hopen : (opening id x y).countP (fun e => takes id e.1) = 1 := by simp [opening, takes]
    rw [Once, List.countP_append, List.countP_append, hopen] at honce
    omega
  simpa using List.countP_eq_zero.1 hzero e he

theorem asks_of_walk {id : SessionId} {refresh : Run Outcome} {t : Transcript World} {op : Act}
    {next : op.Answer → Run Outcome} (hr : Tame id refresh) (honce : Once id t)
    (h : Walk (getOrRefresh id refresh) t (ask (I := World) op next)) : Asks id refresh t op := by
  obtain ⟨q, hq, hplace⟩ : ∃ q, q = ask (I := World) op next ∧ Place id refresh t q :=
    ⟨_, rfl, place_of_walk h⟩
  cases hplace with
  | enter =>
      cases hq
      exact .enter
  | hit _ => cases hq
  | queue hmissed =>
      cases hq
      exact .queue hmissed
  | check hmissed =>
      cases hq
      exact .check hmissed
  | yield hmissed hgen =>
      cases hq
      exact .yield hmissed hgen
  | yielded _ _ => cases hq
  | @work x y u _ _ hmissed hgen hwork =>
      cases hq
      rw [← List.append_nil u] at honce
      rcases Once.respects honce hr hwork with ⟨hu, hop⟩
      exact .work hmissed hgen hwork hu (hop.imp_right And.left)
  | @write x y u outcome hmissed hgen hend =>
      cases hq
      rw [← List.append_nil u] at honce
      exact .write hmissed hgen hend (Once.respects honce hr hend).1
  | leave now hmissed hgen hend =>
      cases hq
      exact .leave now hmissed hgen hend (Once.respects honce hr hend).1
  | left now _ _ _ => cases hq

/-- What a call writes that leaves no writing to its refresh: the outcome of the refresh. -/
theorem settle_of_walk {id i : SessionId} {refresh : Run Outcome} {t : Transcript World}
    {outcome : Except String (Option Credential)} {next : Instant → Run Outcome}
    (hr : refresh.Only fun op : Act => ∀ o, op ≠ .settle i o)
    (h : Walk (getOrRefresh id refresh) t (ask (I := World) (.settle i outcome) next)) :
    i = id ∧ ∃ x y u own, t = opening id x y ++ u ∧ y.1.generation = x.1.generation ∧
      Walk refresh u (done own) ∧ outcome = outcomeText own := by
  obtain ⟨q, hq, hplace⟩ : ∃ q, q = ask (I := World) (.settle i outcome) next ∧ Place id refresh t q :=
    ⟨_, rfl, place_of_walk h⟩
  cases hplace with
  | @work x y u op rest _ _ hwork =>
      cases hq
      exact absurd rfl ((hr.walk hwork).2.1 outcome)
  | @write x y u own _ hgen hend =>
      cases hq
      exact ⟨rfl, x, y, u, own, rfl, hgen, hend, rfl⟩
  | _ => cases hq

/-- How a call that gets the credential ends: with the live credential that it found, with what another
one wrote while it queued, or with the outcome of its refresh. -/
inductive Ends (id : SessionId) (refresh : Run Outcome) : Transcript World → Outcome → Prop where
  | hit {x : Look} {c : Credential} : Credential.liveAt x.2 x.1.credential = some c →
      Ends id refresh [⟨.look id, x⟩] (.ok (some c))
  | yield {x y : Look} : Missed x → y.1.generation ≠ x.1.generation →
      Ends id refresh (opening id x y ++ [⟨.release id, ()⟩]) (shared y.1 y.2)
  | leave {x y : Look} {u : Transcript World} {outcome : Outcome} (now : Instant) :
      Missed x → y.1.generation = x.1.generation → Walk refresh u (done outcome) →
      Ends id refresh
        (opening id x y ++ (u ++ [⟨.settle id (outcomeText outcome), now⟩, ⟨.release id, ()⟩]))
        (own outcome now)

theorem ends_of_walk {id : SessionId} {refresh : Run Outcome} {t : Transcript World} {v : Outcome}
    (h : Walk (getOrRefresh id refresh) t (done v)) : Ends id refresh t v := by
  obtain ⟨q, hq, hplace⟩ : ∃ q, q = done v ∧ Place id refresh t q := ⟨_, rfl, place_of_walk h⟩
  cases hplace with
  | hit hlive =>
      cases hq
      exact .hit hlive
  | yielded hmissed hgen =>
      cases hq
      exact .yield hmissed hgen
  | left now hmissed hgen hend =>
      cases hq
      exact .leave now hmissed hgen hend
  | _ => cases hq

/-- A call that gets a credential was shown it at a look at the slot, or has refreshed it. -/
theorem returned_of_walk {id : SessionId} {refresh : Run Outcome} {t : Transcript World}
    {c : Credential} (h : Walk (getOrRefresh id refresh) t (done (.ok (some c)))) :
    (∃ t₁ x t₂, t = t₁ ++ ⟨.look id, x⟩ :: t₂ ∧ x.1.credential = some c) ∨
      ∃ x y u t₂ now, t = opening id x y ++ (u ++ ⟨.settle id (.ok (some c)), now⟩ :: t₂) ∧
        Walk refresh u (done (.ok (some c))) := by
  obtain ⟨v, hv, hends⟩ : ∃ v, v = .ok (some c) ∧ Ends id refresh t v := ⟨_, rfl, ends_of_walk h⟩
  cases hends with
  | @hit x held hlive =>
      cases hv
      exact .inl ⟨[], x, [], rfl, (Credential.liveAt_eq_some.1 hlive).1⟩
  | @yield x y _ _ =>
      -- the call shares what was written while it queued
      unfold shared at hv
      split at hv
      · cases hv
      · have hheld := (Credential.liveAt_eq_some.1 (Except.ok.inj hv)).1
        exact .inl ⟨[⟨.look id, x⟩, ⟨.acquire id, ()⟩], y, _, rfl, hheld⟩
  | @leave x y u outcome now _ _ hend =>
      cases outcome with
      | error e => cases hv
      | ok held =>
          have hheld := (Credential.liveAt_eq_some.1 (Except.ok.inj hv)).1
          subst hheld
          exact .inr ⟨x, y, u, _, now, rfl, hend⟩

/-! ## Holding the lock -/

/-- Whether a program took the lock and has not given it back. -/
def Holding (id : SessionId) (t : Transcript World) : Prop :=
  (⟨.acquire id, ()⟩ : Entry World) ∈ t ∧ ∀ e ∈ t, e.1 ≠ .release id

/-- Whether a program found the slot as it had left it and started its refresh. -/
def Started (id : SessionId) (t : Transcript World) : Prop :=
  ∃ x y u, t = opening id x y ++ u ∧ y.1.generation = x.1.generation

/-- Whether a program is in the middle of its refresh. -/
def Refreshing (id : SessionId) (refresh : Run Outcome) (t : Transcript World) : Prop :=
  ∃ x y u r, t = opening id x y ++ u ∧ y.1.generation = x.1.generation ∧ Walk refresh u r

theorem holding_opening {id : SessionId} {x y : Look} {u : Transcript World}
    (hu : ∀ e ∈ u, e.1 ≠ .release id) : Holding id (opening id x y ++ u) := by
  refine ⟨by simp [opening], ?_⟩
  intro e he
  rcases List.mem_append.1 he with hopen | hwork
  · simp only [opening, List.mem_cons, List.not_mem_nil, or_false] at hopen
    rcases hopen with rfl | rfl | rfl
    all_goals
      intro heq
      cases heq
  · exact hu e hwork

/-- A call that is in its refresh has written nothing. -/
theorem settles_eq_false_of_mem {id : SessionId} {x y : Look} {u : Transcript World}
    {e : Entry World} (hu : ∀ e ∈ u, Respects id e.1) (he : e ∈ opening id x y ++ u) :
    settles id e.1 = false := by
  rcases List.mem_append.1 he with hopen | hwork
  · simp only [opening, List.mem_cons, List.not_mem_nil, or_false] at hopen
    rcases hopen with rfl | rfl | rfl <;> rfl
  · exact (hu e hwork).settles_eq_false

theorem Refreshing.holding {id : SessionId} {refresh : Run Outcome} {t : Transcript World}
    (hr : Tame id refresh) (honce : Once id t) (h : Refreshing id refresh t) : Holding id t := by
  rcases h with ⟨x, y, u, r, rfl, _, hwalk⟩
  rw [← List.append_nil u] at honce
  exact holding_opening fun e he => ((Once.respects honce hr hwalk).1 e he).ne_release

theorem opening_append_inj {id : SessionId} {x y x' y' : Look} {u u' : Transcript World} :
    opening id x y ++ u = opening id x' y' ++ u' ↔ x = x' ∧ y = y' ∧ u = u' := by
  simp [opening]

namespace Asks

variable {id : SessionId} {refresh : Run Outcome} {t : Transcript World}

theorem establishes_eq_false {op : Act} (h : Asks id refresh t op) : establishes id op = false := by
  cases h with
  | work _ _ _ _ hop =>
      rcases hop with htake | hop
      · rw [takes_iff.1 htake]
        rfl
      · exact hop.establishes_eq_false
  | _ => rfl

/-- A call takes the lock after its first look, or holds it already. -/
theorem acquire (h : Asks id refresh t (.acquire id)) :
    (∃ x, t = [⟨.look id, x⟩]) ∨ Holding id t := by
  cases h with
  | queue _ => exact .inl ⟨_, rfl⟩
  | work _ _ _ hu _ => exact .inr (holding_opening fun e he => (hu e he).ne_release)

/-- A call gives back the lock that it holds. -/
theorem release (h : Asks id refresh t (.release id)) : Holding id t := by
  cases h with
  | @yield x y _ _ =>
      have hopen : Holding id (opening id x y ++ []) := holding_opening (by simp)
      rwa [List.append_nil] at hopen
  | work _ _ _ hu _ => exact holding_opening fun e he => (hu e he).ne_release
  | leave now _ _ _ hu =>
      refine holding_opening ?_
      intro e he
      rcases List.mem_append.1 he with hwork | hwrite
      · exact (hu e hwork).ne_release
      · cases List.mem_singleton.1 hwrite
        intro heq
        cases heq

/-- A call that has refreshed writes before it gives the lock back. -/
theorem settled_of_release {x y : Look} {u : Transcript World}
    (h : Asks id refresh (opening id x y ++ u) (.release id))
    (hgen : y.1.generation = x.1.generation) : ∃ e ∈ u, settles id e.1 = true := by
  generalize ht : opening id x y ++ u = t at h
  cases h with
  | @yield x' y' _ hdisturbed =>
      rw [← List.append_nil (opening id x' y')] at ht
      rcases opening_append_inj.1 ht with ⟨rfl, rfl, _⟩
      exact absurd hgen hdisturbed
  | work _ _ _ _ hop =>
      rcases hop with htake | hop
      · cases htake
      · exact absurd rfl hop
  | leave now _ _ _ _ =>
      rcases opening_append_inj.1 ht with ⟨_, _, rfl⟩
      exact ⟨_, List.mem_append_right _ (List.mem_singleton_self _), by simp [settles]⟩

/-- What a call writes is the outcome of its own refresh. -/
theorem settle {outcome : Except String (Option Credential)}
    (h : Asks id refresh t (.settle id outcome)) :
    ∃ x y u own, t = opening id x y ++ u ∧ y.1.generation = x.1.generation ∧
      Walk refresh u (done own) ∧ (∀ e ∈ u, Respects id e.1) ∧ outcome = outcomeText own := by
  cases h with
  | work _ _ _ _ hop =>
      rcases hop with htake | hop
      · cases htake
      · exact absurd rfl hop
  | write _ hgen hend hu => exact ⟨_, _, _, _, rfl, hgen, hend, hu, rfl⟩

end Asks

/-! ## Calls and their runs -/

/-- A call on a slot. -/
inductive Call where
  | get (refresh : Run Outcome)
  | clear

/-- What a call ends in. -/
abbrev Call.Result : Call → Type
  | get _ => Outcome
  | clear => Unit

/-- The program of a call. -/
def Call.program (id : SessionId) : (c : Call) → Run c.Result
  | get refresh => getOrRefresh id refresh
  | clear => Slot.clear id

theorem Call.asks {id : SessionId} {c : Call} {t : Transcript World} {op : Act}
    {next : op.Answer → Run c.Result} (hr : ∀ refresh, c = .get refresh → Tame id refresh)
    (honce : Once id t) (h : Walk (c.program id) t (ask (I := World) op next)) :
    (c = .clear ∧ t = [] ∧ op = .forget id) ∨ ∃ refresh, c = .get refresh ∧ Asks id refresh t op := by
  cases c with
  | clear =>
      rcases walk_ask_iff.1 h with ⟨rfl, hq⟩ | ⟨_, t₁, rfl, h₁⟩
      · cases hq
        exact .inl ⟨rfl, rfl, rfl⟩
      · rcases walk_done_iff.1 h₁ with ⟨_, hq⟩
        cases hq
  | get refresh => exact .inr ⟨refresh, rfl, asks_of_walk (hr refresh rfl) honce h⟩

variable {ι : Type} [DecidableEq ι]

/-- A run of calls on one slot: nobody holds its lock at first, and the refreshes get at the lock and
at the slot only by calls. -/
structure Traffic (id : SessionId) (calls : ι → Call) (s : Store) (l : List (Event ι)) : Prop where
  runs : ∃ d, Runs ⟨s, fun i => (calls i).program id⟩ l d
  free : (s.vault id).locked = false
  tame : ∀ i refresh, calls i = .get refresh → Tame id refresh

/-- At most one program holds the lock, while it does the lock is taken, and nobody takes it again. -/
structure Locks (id : SessionId) (s : Store) (l : List (Event ι)) : Prop where
  locked : ∀ i, Holding id (partOf i l) → ((storeAfter s l).vault id).locked = true
  unique : ∀ i j, Holding id (partOf i l) → Holding id (partOf j l) → i = j
  once : ∀ i, Once id (partOf i l)

namespace Traffic

variable {id : SessionId} {calls : ι → Call} {s : Store} {l l₁ l₂ : List (Event ι)} {e : Event ι}

theorem of_append (h : Traffic id calls s (l₁ ++ l₂)) : Traffic id calls s l₁ := by
  rcases h.runs with ⟨d, hruns⟩
  rcases hruns.of_append with ⟨m, hm, _⟩
  exact ⟨⟨m, hm⟩, h.free, h.tame⟩

/-- Every step belongs to a call that clears the slot, or has its place in the protocol. -/
theorem asks_of_once (h : Traffic id calls s (l₁ ++ e :: l₂)) (honce : Once id (partOf e.who l₁)) :
    (calls e.who = .clear ∧ partOf e.who l₁ = [] ∧ e.act = .forget id) ∨
      ∃ refresh, calls e.who = .get refresh ∧ Asks id refresh (partOf e.who l₁) e.act := by
  rcases h.runs with ⟨d, hruns⟩
  rcases hruns.event with ⟨⟨next, hwalk⟩, _⟩
  exact Call.asks (h.tame e.who) honce hwalk

theorem waits (h : Traffic id calls s (l₁ ++ e :: l₂)) : e.act.waits (storeAfter s l₁) = false := by
  rcases h.runs with ⟨d, hruns⟩
  exact hruns.event.2.1

theorem admits (h : Traffic id calls s (l₁ ++ e :: l₂)) :
    e.act.Admits (storeAfter s l₁) e.time e.answer := by
  rcases h.runs with ⟨d, hruns⟩
  exact hruns.event.2.2

/-! ### The lock -/

/-- Only taking the lock makes a holder. -/
theorem holding_of_append {i : ι} (htake : takes id e.act = false)
    (h : Holding id (partOf i (l ++ [e]))) : Holding id (partOf i l) := by
  rw [partOf_append] at h
  refine ⟨?_, fun x hx => h.2 x (List.mem_append_left _ hx)⟩
  rcases List.mem_append.1 h.1 with hbefore | hnow
  · exact hbefore
  · rcases mem_partOf hnow with ⟨l₁, e', l₂, he, _, hx⟩
    have hmem : e' ∈ [e] := by
      rw [he]
      simp
    cases List.mem_singleton.1 hmem
    rw [takes_iff.2 (congrArg Sigma.fst hx).symm] at htake
    cases htake

theorem once_append {i : ι} (htake : takes id e.act = false) (h : Once id (partOf i l)) :
    Once id (partOf i (l ++ [e])) := by
  by_cases hi : e.who = i
  · simpa [Once, partOf_cons_eq hi, htake] using h
  · simpa [partOf_cons_ne hi] using h

/-- One step keeps the lock in order. -/
theorem locks_step (h : Traffic id calls s (l ++ [e])) (hl : Locks id s l) :
    Locks id s (l ++ [e]) := by
  have hasks := h.asks_of_once (hl.once e.who)
  by_cases htake : takes id e.act = true
  · -- the lock was free, so whoever holds it now has just taken it
    have hact := takes_iff.1 htake
    have hfree : ((storeAfter s l).vault id).locked = false := by
      have hwaits := h.waits
      rwa [hact] at hwaits
    have hnobody : ∀ i, ¬ Holding id (partOf i l) := by
      intro i hi
      rw [hl.locked i hi] at hfree
      cases hfree
    have hholder : ∀ i, Holding id (partOf i (l ++ [e])) → i = e.who := by
      intro i hi
      by_contra hne
      apply hnobody i
      simpa [partOf_cons_ne (Ne.symm hne)] using hi
    have hqueued : ∃ x, partOf e.who l = [⟨.look id, x⟩] := by
      rcases hasks with ⟨_, _, hclear⟩ | ⟨refresh, _, hasks⟩
      · rw [hact] at hclear
        cases hclear
      · rw [hact] at hasks
        exact hasks.acquire.resolve_right (hnobody _)
    refine ⟨?_, ?_, ?_⟩
    · intro i _
      simp [hact, Act.onStore]
    · intro i j hi hj
      rw [hholder i hi, hholder j hj]
    · intro i
      by_cases hi : e.who = i
      · rcases hqueued with ⟨x, hx⟩
        subst hi
        simp [Once, hx, hact, takes]
      · simpa [partOf_cons_ne hi] using hl.once i
  · replace htake : takes id e.act = false := Bool.eq_false_iff.2 htake
    by_cases hgive : e.act = .release id
    · -- the only holder gives the lock back
      have hwho : Holding id (partOf e.who l) := by
        rcases hasks with ⟨_, _, hclear⟩ | ⟨refresh, _, hasks⟩
        · rw [hgive] at hclear
          cases hclear
        · rw [hgive] at hasks
          exact hasks.release
      have hnone : ∀ i, ¬ Holding id (partOf i (l ++ [e])) := by
        intro i hi
        have hbefore := holding_of_append htake hi
        cases hl.unique i e.who hbefore hwho
        refine hi.2 ⟨e.act, e.answer⟩ ?_ hgive
        simp
      exact ⟨fun i hi => absurd hi (hnone i), fun i _ hi => absurd hi (hnone i),
        fun i => once_append htake (hl.once i)⟩
    · -- any other step leaves the lock to whom it belongs
      have hnew : establishes id e.act = false := by
        rcases hasks with ⟨_, _, hclear⟩ | ⟨refresh, _, hasks⟩
        · rw [hclear]
          rfl
        · exact hasks.establishes_eq_false
      refine ⟨?_, ?_, fun i => once_append htake (hl.once i)⟩
      · intro i hi
        have hbefore := hl.locked i (holding_of_append htake hi)
        rw [storeAfter_append]
        exact (locked_onStore _ htake hgive hnew).trans hbefore
      · intro i j hi hj
        exact hl.unique i j (holding_of_append htake hi) (holding_of_append htake hj)

theorem locks (h : Traffic id calls s l) : Locks id s l := by
  induction l using List.reverseRecOn with
  | nil => exact ⟨by simp [Holding], by simp [Holding], by simp [Once]⟩
  | append_singleton l e ih => exact h.locks_step (ih h.of_append)

theorem asks (h : Traffic id calls s (l₁ ++ e :: l₂)) :
    (calls e.who = .clear ∧ partOf e.who l₁ = [] ∧ e.act = .forget id) ∨
      ∃ refresh, calls e.who = .get refresh ∧ Asks id refresh (partOf e.who l₁) e.act :=
  h.asks_of_once (h.of_append.locks.once e.who)

theorem establishes_eq_false (h : Traffic id calls s (l₁ ++ e :: l₂)) :
    establishes id e.act = false := by
  rcases h.asks with ⟨_, _, hact⟩ | ⟨refresh, _, hasks⟩
  · rw [hact]
    rfl
  · exact hasks.establishes_eq_false

/-! ### The generation -/

/-- The generation counts the writes. -/
theorem generation (h : Traffic id calls s l) :
    ((storeAfter s l).vault id).slot.generation =
      (s.vault id).slot.generation + l.countP fun e => writes id e.act := by
  induction l using List.reverseRecOn with
  | nil => rfl
  | append_singleton l e ih =>
      -- one step writes, and counts, or does neither
      have hbefore := ih h.of_append
      rw [storeAfter_append, List.countP_append]
      by_cases hwrite : writes id e.act = true
      · calc
          _ = ((storeAfter s l).vault id).slot.generation + 1 := generation_onStore _ hwrite
          _ = _ := by simp [hbefore, hwrite, Nat.add_assoc]
      · have hslot := slot_onStore (storeAfter s l) (Bool.eq_false_iff.2 hwrite)
          h.establishes_eq_false
        simp [hslot, hbefore, hwrite]

/-- Between two moments of one generation nothing is written. -/
theorem writes_eq_false (h : Traffic id calls s (l₁ ++ l₂))
    (hgen : ((storeAfter s (l₁ ++ l₂)).vault id).slot.generation =
      ((storeAfter s l₁).vault id).slot.generation) :
    ∀ e ∈ l₂, writes id e.act = false := by
  have hcount : l₂.countP (fun e => writes id e.act) = 0 := by
    rw [h.generation, h.of_append.generation, List.countP_append] at hgen
    omega
  intro e he
  simpa using List.countP_eq_zero.1 hcount e he

/-- While nothing is written the slot stays as it is. -/
theorem slot_eq (h : Traffic id calls s (l₁ ++ l₂)) (hwrite : ∀ e ∈ l₂, writes id e.act = false) :
    ((storeAfter s (l₁ ++ l₂)).vault id).slot = ((storeAfter s l₁).vault id).slot := by
  induction l₂ using List.reverseRecOn with
  | nil => simp
  | append_singleton l e ih =>
      rw [← List.append_assoc] at h ⊢
      have hbefore := ih h.of_append fun e he => hwrite e (List.mem_append_left _ he)
      rw [storeAfter_append]
      exact (slot_onStore _ (hwrite e (by simp)) h.establishes_eq_false).trans hbefore

end Traffic
end Slot
end Countersign
