import Countersign.Proofs.SlotCalls

/-!
# Single flight — one refresh for all that wait

A call that finds no live credential queues for the lock and looks again before it refreshes.  In
every interleaving of calls on one slot:

* one refresh runs at a time;
* a refresh starts only if nothing was written between the two looks of its call;
* the calls that look between two refreshes, with no clear between, start one refresh among them;
* a call that queued while another refreshed shares that outcome.

All of it rests on the lock, which has one holder, and on the generation, which counts the writes.
-/

namespace Countersign
namespace Slot

open Program

variable {ι : Type} [DecidableEq ι]

/-! ## Places in a run -/

/-- Whether a call takes its first look with a step. -/
def Enters (i : ι) (l : List (Event ι)) (e : Event ι) : Prop :=
  e.who = i ∧ partOf i l = []

/-- Whether a call looks again with a step, under the lock. -/
def Checks (id : SessionId) (i : ι) (l : List (Event ι)) (e : Event ι) : Prop :=
  e.who = i ∧ ∃ x, partOf i l = [⟨.look id, x⟩, ⟨.acquire id, ()⟩]

/-- Whether a call looked before another one wrote, and took the lock behind the latest write. -/
structure Overtaken (id : SessionId) (i : ι) (l₁ : List (Event ι)) (e : Event ι)
    (m₁ : List (Event ι)) (w : Event ι) (m₂ : List (Event ι)) (a : Event ι) : Prop where
  enters : Enters i l₁ e
  wrote : settles id w.act = true
  latest : ∀ x ∈ m₂, settles id x.act = false
  who : a.who = i
  queued : a.act = .acquire id

theorem Overtaken.took {id : SessionId} {i : ι} {l₁ m₁ m₂ : List (Event ι)} {e w a : Event ι}
    (h : Overtaken id i l₁ e m₁ w m₂ a) :
    (⟨a.act, a.answer⟩ : Entry World) = ⟨.acquire id, ()⟩ := by
  have hqueued := h.queued
  rcases a with ⟨_, act, answer, _⟩
  cases hqueued
  rfl

/-- Whether a step writes the outcome of the refresh of its call. -/
def Completes (id : SessionId) (calls : ι → Call) (l : List (Event ι)) (w : Event ι)
    (outcome : Outcome) : Prop :=
  ∃ refresh x y u, calls w.who = .get refresh ∧ partOf w.who l = opening id x y ++ u ∧
    Walk refresh u (done outcome) ∧ w.act = .settle id (outcomeText outcome)

/-- What a call shares that queued while another one came to an outcome. -/
def observed : Outcome → Instant → Outcome
  | .error e, _ => .error (.refresh e.message)
  | .ok c, now => .ok (Credential.liveAt now c)

/-- Whether nothing is left to a call but to give the lock back and to return a value. -/
def Returning (id : SessionId) (v : Outcome) (q : Run Outcome) : Prop :=
  q = (ask (I := World) (.release id) fun _ => done v) ∨ q = done v

theorem shared_settled (s : SlotState) (outcome : Outcome) (now : Instant) :
    shared (s.settled (outcomeText outcome)) now = observed outcome now := by
  cases outcome <;> rfl

theorem returning_of_walk {id : SessionId} {refresh : Run Outcome} {x y : Look}
    {u : Transcript World} {q : Run Outcome}
    (h : Walk (getOrRefresh id refresh) (opening id x y ++ u) q)
    (hgen : y.1.generation ≠ x.1.generation) : Returning id (shared y.1 y.2) q := by
  obtain ⟨t, ht, hplace⟩ : ∃ t, t = opening id x y ++ u ∧ Place id refresh t q :=
    ⟨_, rfl, place_of_walk h⟩
  cases hplace with
  | @yield x' y' _ _ =>
      rw [← List.append_nil (opening id x' y')] at ht
      rcases opening_append_inj.1 ht with ⟨rfl, rfl, _⟩
      exact .inl rfl
  | yielded _ _ =>
      rcases opening_append_inj.1 ht with ⟨rfl, rfl, _⟩
      exact .inr rfl
  | work _ hsame _ | write _ hsame _ | leave _ _ hsame _ | left _ _ hsame _ =>
      rcases opening_append_inj.1 ht with ⟨rfl, rfl, _⟩
      exact absurd hsame hgen
  | _ => cases ht

namespace Traffic

variable {id : SessionId} {calls : ι → Call} {s : Store} {l l₁ l₂ : List (Event ι)} {e : Event ι}
  {i j : ι} {refresh : Run Outcome}

/-- A look shows the slot as it is. -/
theorem look (h : Traffic id calls s (l₁ ++ e :: l₂)) (hact : e.act = .look id) :
    (⟨e.act, e.answer⟩ : Entry World) =
      ⟨.look id, (((storeAfter s l₁).vault id).slot, e.time)⟩ := by
  have hadmits := h.admits
  rcases e with ⟨who, act, answer, time⟩
  cases hact
  have hanswer : answer = (((storeAfter s l₁).vault id).slot, time) := hadmits
  rw [hanswer]

theorem look_eq (h : Traffic id calls s (l₁ ++ e :: l₂)) {x : Look}
    (hx : (⟨.look id, x⟩ : Entry World) = ⟨e.act, e.answer⟩) :
    x = (((storeAfter s l₁).vault id).slot, e.time) := by
  rw [h.look (congrArg Sigma.fst hx).symm] at hx
  cases hx
  rfl

/-- The second look of a call. -/
theorem check (h : Traffic id calls s l) {x y : Look} {u : Transcript World}
    (hopen : partOf i l = opening id x y ++ u) :
    ∃ l₁ c l₂, l = l₁ ++ c :: l₂ ∧ c.who = i ∧
      partOf i l₁ = [⟨.look id, x⟩, ⟨.acquire id, ()⟩] ∧ partOf i (l₁ ++ [c]) = opening id x y ∧
      y = (((storeAfter s l₁).vault id).slot, c.time) := by
  have hsplit : partOf i l = [⟨.look id, x⟩, ⟨.acquire id, ()⟩] ++ (⟨.look id, y⟩ :: u) := hopen
  rcases partOf_eq_append_cons hsplit with ⟨l₁, c, l₂, rfl, hlook, hwho, hc, _⟩
  refine ⟨l₁, c, l₂, rfl, hwho, hlook, ?_, h.look_eq hc⟩
  rw [partOf_append, hlook, partOf_cons_eq hwho, ← hc]
  rfl

/-! ## One refresh for each generation -/

/-- While a call that started its refresh is the last to have written nothing, no other call holds the
lock. -/
theorem eq_of_holding {c : Event ι} {m : List (Event ι)} {x y : Look}
    (h : Traffic id calls s (l ++ c :: m)) (hi : partOf i (l ++ [c]) = opening id x y)
    (hgen : y.1.generation = x.1.generation) (hwrite : ∀ e ∈ m, writes id e.act = false)
    (hj : Holding id (partOf j (l ++ c :: m))) : i = j := by
  refine h.locks.unique i j ?_ hj
  have hsplit : partOf i (l ++ c :: m) = opening id x y ++ partOf i m := by
    rw [← hi, ← partOf_append]
    simp
  rw [hsplit]
  refine holding_opening ?_
  intro z hz hgive
  -- giving the lock back would have been preceded by a write
  rcases mem_partOf hz with ⟨m₁, r, m₂, rfl, hwho, rfl⟩
  replace hgive : r.act = .release id := hgive
  have hr : Traffic id calls s ((l ++ c :: m₁) ++ r :: m₂) := by simpa using h
  rcases hr.asks with ⟨_, _, hact⟩ | ⟨refresh, _, hasks⟩
  · rw [hgive] at hact
    cases hact
  · have hbefore : partOf r.who (l ++ c :: m₁) = opening id x y ++ partOf i m₁ := by
      rw [hwho, ← hi, ← partOf_append]
      simp
    rw [hbefore, hgive] at hasks
    rcases hasks.settled_of_release hgen with ⟨z', hz', hsettles⟩
    rcases mem_partOf hz' with ⟨n₁, w, n₂, rfl, _, rfl⟩
    have hquiet := hwrite w (by simp)
    rw [writes_of_settles hsettles] at hquiet
    cases hquiet

/-- Of two calls that started their refresh in one generation, the one that looked again first is the
other. -/
theorem eq_of_check_le {c c' : Event ι} {m : List (Event ι)} {x y x' : Look}
    (h : Traffic id calls s (l ++ m ++ c' :: l₁)) (hl : l ++ c :: l₂ = l ++ m ++ c' :: l₁)
    (hc : c.who = i) (hi : partOf i (l ++ [c]) = opening id x y)
    (hc' : c'.who = j) (hj : partOf j (l ++ m) = [⟨.look id, x'⟩, ⟨.acquire id, ()⟩])
    (hgen : y.1.generation = x.1.generation)
    (hsame : ((storeAfter s (l ++ m)).vault id).slot.generation =
      ((storeAfter s l).vault id).slot.generation) : i = j := by
  -- without a write in between the earlier call still holds the lock at the later look
  have hquiet := h.of_append.writes_eq_false hsame
  rw [List.append_assoc, List.append_cancel_left_eq] at hl
  cases m with
  | nil =>
      cases hl
      rw [← hc, ← hc']
  | cons e m =>
      cases hl
      refine h.of_append.eq_of_holding hi hgen (fun e he => hquiet e (.tail _ he)) ?_
      rw [hj]
      exact ⟨by simp, by simp⟩

/-- In one generation at most one call starts its refresh. -/
theorem start_unique {x y x' y' : Look} {u u' : Transcript World} (h : Traffic id calls s l)
    (hi : partOf i l = opening id x y ++ u) (hgen : y.1.generation = x.1.generation)
    (hj : partOf j l = opening id x' y' ++ u') (hgen' : y'.1.generation = x'.1.generation)
    (hsame : x.1.generation = x'.1.generation) : i = j := by
  rcases h.check hi with ⟨l₁, c, l₂, hl, hc, hp, hopen, rfl⟩
  rcases h.check hj with ⟨l₁', c', l₂', hl', hc', hp', hopen', rfl⟩
  have hstore : ((storeAfter s l₁).vault id).slot.generation =
      ((storeAfter s l₁').vault id).slot.generation := hgen.trans (hsame.trans hgen'.symm)
  have hboth := hl.symm.trans hl'
  -- one of the two looks comes first
  rcases List.append_eq_append_iff.1 hboth with ⟨m, rfl, _⟩ | ⟨m, rfl, _⟩
  · rw [hl'] at h
    exact h.eq_of_check_le hboth hc hopen hc' hp' hgen hstore.symm
  · rw [hl] at h
    exact (h.eq_of_check_le hboth.symm hc' hopen' hc hp hgen' hstore).symm

/-! ## Calls between two writes -/

/-- Nothing is written between the two looks of a call that starts its refresh. -/
theorem undisturbed {c : Event ι} {l₃ : List (Event ι)}
    (h : Traffic id calls s (l₁ ++ e :: l₂ ++ c :: l₃)) (henter : Enters i l₁ e)
    (hcheck : Checks id i (l₁ ++ e :: l₂) c)
    (hstart : Started id (partOf i (l₁ ++ e :: l₂ ++ c :: l₃))) :
    ∀ x ∈ l₂, writes id x.act = false := by
  rcases henter with ⟨hwho, hfresh⟩
  rcases hcheck with ⟨hwho', x, hlooked⟩
  rcases hstart with ⟨x', y', u, hopen, hgen⟩
  have hfirst : (⟨.look id, x⟩ : Entry World) = ⟨e.act, e.answer⟩ := by
    rw [partOf_append, hfresh, partOf_cons_eq hwho] at hlooked
    exact (List.cons.inj hlooked).1.symm
  rw [partOf_append, hlooked, partOf_cons_eq hwho'] at hopen
  simp only [opening, List.cons_append, List.nil_append, List.cons.injEq] at hopen
  rcases hopen with ⟨hx, _, hy, _⟩
  cases hx
  -- both looks show the same generation
  have hbefore : x.1 = ((storeAfter s l₁).vault id).slot := by
    rw [List.append_assoc] at h
    rw [h.look_eq hfirst]
  have hafter : y'.1 = ((storeAfter s (l₁ ++ e :: l₂)).vault id).slot := by
    rw [h.look_eq hy.symm]
  have hquiet := h.of_append.writes_eq_false (by rw [← hbefore, ← hafter, hgen])
  exact fun z hz => hquiet z (.tail _ hz)

/-- Whoever writes an outcome has started its refresh and has come to its end. -/
theorem settled (h : Traffic id calls s (l₁ ++ e :: l₂)) (hsettle : settles id e.act = true) :
    ∃ refresh x y u outcome, calls e.who = .get refresh ∧ (∀ z ∈ u, Respects id z.1) ∧
      partOf e.who l₁ = opening id x y ++ u ∧ y.1.generation = x.1.generation ∧
      Walk refresh u (done outcome) ∧ e.act = .settle id (outcomeText outcome) := by
  rcases h.asks with ⟨_, _, hact⟩ | ⟨refresh, hget, hasks⟩
  · rw [hact] at hsettle
    cases hsettle
  · cases hact : e.act with
    | settle n outcome =>
        have hn : n = id := by simpa [hact, settles] using hsettle
        subst hn
        rw [hact] at hasks
        rcases hasks.settle with ⟨x, y, u, own, ht, hgen, hwalk, hu, ho⟩
        exact ⟨refresh, x, y, u, own, hget, hu, ht, hgen, hwalk, by rw [ho]⟩
    | _ =>
        rw [hact] at hsettle
        cases hsettle

/-- Until the next write the slot holds the outcome that was written. -/
theorem slot_of_settled (h : Traffic id calls s (l₁ ++ e :: l₂)) (hsettle : settles id e.act = true)
    (hquiet : ∀ z ∈ l₂, writes id z.act = false) :
    ∃ outcome, Completes id calls l₁ e outcome ∧
      ((storeAfter s (l₁ ++ e :: l₂)).vault id).slot =
        ((storeAfter s l₁).vault id).slot.settled (outcomeText outcome) := by
  rcases h.settled hsettle with ⟨refresh, x, y, u, outcome, hget, _, hpart, _, hend, hact⟩
  have hlast : ((storeAfter s (l₁ ++ [e])).vault id).slot =
      ((storeAfter s l₁).vault id).slot.settled (outcomeText outcome) := by
    rw [storeAfter_append, storeAfter_cons, storeAfter_nil, hact]
    simp [Act.onStore]
  refine ⟨outcome, ⟨refresh, x, y, u, hget, hpart, hend, hact⟩, ?_⟩
  rw [← hlast]
  rw [List.append_cons] at h ⊢
  exact h.slot_eq hquiet

/-- A call that enters while nothing is written sees the generation at the start. -/
theorem enter_generation {x : Look} {t : Transcript World} {l₃ : List (Event ι)}
    (h : Traffic id calls s (l₁ ++ l₂)) (hfresh : partOf i l₁ = []) (hentered : partOf i l₂ ≠ [])
    (hpart : partOf i (l₁ ++ l₂ ++ l₃) = ⟨.look id, x⟩ :: t)
    (hquiet : ∀ e ∈ l₂, writes id e.act = false) :
    x.1.generation = ((storeAfter s l₁).vault id).slot.generation := by
  rw [partOf_append, partOf_append, hfresh, List.nil_append] at hpart
  rcases hl₂ : partOf i l₂ with _ | ⟨z, t'⟩
  · exact absurd hl₂ hentered
  · rw [hl₂, List.cons_append] at hpart
    rcases partOf_eq_cons hl₂ with ⟨m, e, m', rfl, _, _, hz, _⟩
    rw [(List.cons.inj hpart).1] at hz
    rw [← List.append_assoc] at h
    rw [h.look_eq hz, h.of_append.slot_eq fun e he => hquiet e (List.mem_append_left _ he)]

/-- Nobody writes between the first look of a call that starts its refresh and its taking the lock. -/
theorem writes_eq_false_of_looked {x y : Look} {z : Entry World} {u : Transcript World}
    (h : Traffic id calls s (l₁ ++ e :: l₂)) (hwho : e.who ≠ i) (hlooked : partOf i l₁ = [z])
    (hopen : partOf i (l₁ ++ e :: l₂) = opening id x y ++ u)
    (hgen : y.1.generation = x.1.generation) : writes id e.act = false := by
  have hstart : Started id (partOf i (l₁ ++ e :: l₂)) := ⟨x, y, u, hopen, hgen⟩
  rw [partOf_append, partOf_cons_ne hwho, hlooked] at hopen
  simp only [opening, List.cons_append, List.nil_append, List.cons.injEq] at hopen
  rcases partOf_eq_cons hlooked with ⟨q, f, q', rfl, hq, hf, hz, hq'⟩
  have hrest : partOf i l₂ = [⟨.acquire id, ()⟩] ++ (⟨.look id, y⟩ :: u) := hopen.2
  rcases partOf_eq_append_cons hrest with ⟨r, c, l₃, rfl, hr, hc, hy, _⟩
  -- `f` is the first look of the call and `c` its second, so `e` lies between its two looks
  have hshape : q ++ f :: q' ++ e :: (r ++ c :: l₃) = q ++ f :: (q' ++ e :: r) ++ c :: l₃ := by
    simp
  rw [hshape] at h hstart
  refine h.undisturbed ⟨hf, hq⟩ ⟨hc, x, ?_⟩ hstart e (by simp)
  rw [partOf_append, hq, partOf_cons_eq hf, partOf_append, hq', partOf_cons_ne hwho, hr, ← hz, hopen.1]
  rfl

/-- A call that writes next after another one has looked only behind that one's write. -/
theorem enters_after_settle {e' : Event ι} {l₃ : List (Event ι)}
    (h : Traffic id calls s (l₁ ++ e :: l₂ ++ e' :: l₃)) (hsettle : settles id e.act = true)
    (hsettle' : settles id e'.act = true) : partOf e'.who (l₁ ++ [e]) = [] := by
  rcases h.settled hsettle' with ⟨_, x', y', u', _, _, hquiet', ht', hgen', _, _⟩
  have hbefore : Traffic id calls s (l₁ ++ e :: l₂) := h.of_append
  rcases hbefore.settled hsettle with ⟨_, x, y, u, _, _, hquiet, ht, _, _, _⟩
  by_cases hsame : e.who = e'.who
  · -- a call writes once
    have hmem : (⟨e.act, e.answer⟩ : Entry World) ∈ opening id x' y' ++ u' := by
      rw [← ht', ← hsame]
      simp
    have hnot : settles id e.act = false := settles_eq_false_of_mem hquiet' hmem
    rw [hnot] at hsettle
    cases hsettle
  · -- the other call cannot have taken the lock before, so its second look is still to come
    have hholds : Holding id (partOf e.who l₁) := by
      rw [ht]
      exact holding_opening fun z hz => (hquiet z hz).ne_release
    have hnever : ∀ z ∈ opening id x' y' ++ u', z.1 ≠ .release id :=
      (holding_opening fun z hz => (hquiet' z hz).ne_release).2
    have hsplit : partOf e'.who l₁ ++ partOf e'.who l₂ = opening id x' y' ++ u' := by
      rw [← ht', partOf_append, partOf_cons_ne hsame]
    have htake : (⟨.acquire id, ()⟩ : Entry World) ∉ partOf e'.who l₁ := by
      intro hmem
      refine hsame (hbefore.of_append.locks.unique _ _ hholds ⟨hmem, fun z hz => ?_⟩)
      apply hnever z
      rw [← hsplit]
      exact List.mem_append_left _ hz
    rw [partOf_append, partOf_cons_ne hsame, partOf_nil, List.append_nil]
    -- it has not begun, or it has looked only, or it has taken the lock
    rcases hpart : partOf e'.who l₁ with _ | ⟨z, _ | ⟨z', t⟩⟩
    · rfl
    · have hquiet := hbefore.writes_eq_false_of_looked hsame hpart ht' hgen'
      rw [writes_of_settles hsettle] at hquiet
      cases hquiet
    · rw [hpart] at hsplit htake
      simp only [opening, List.cons_append, List.cons.injEq] at hsplit
      exact absurd (by rw [hsplit.2.1]; simp) htake

/-- Of the calls that enter between two writes exactly one starts its refresh, unless the first write
was a clear. -/
theorem start_existsUnique {l₃ : List (Event ι)} (h : Traffic id calls s (l₁ ++ l₂ ++ e :: l₃))
    (hstart : l₁ = [] ∨ ∃ l y, l₁ = l ++ [y] ∧ settles id y.act = true)
    (hsettle : settles id e.act = true) (hquiet : ∀ x ∈ l₂, writes id x.act = false) :
    ∃! i, partOf i l₁ = [] ∧ partOf i l₂ ≠ [] ∧ Started id (partOf i (l₁ ++ l₂ ++ e :: l₃)) := by
  rcases h.settled hsettle with ⟨refresh, x, y, u, outcome, _, _, hopen, hgen, _, _⟩
  -- the call that writes at the end is the one
  have hfresh : partOf e.who l₁ = [] := by
    rcases hstart with rfl | ⟨l, w, rfl, hw⟩
    · rfl
    · have hshape : l ++ [w] ++ l₂ ++ e :: l₃ = l ++ w :: l₂ ++ e :: l₃ := by simp
      rw [hshape] at h
      exact h.enters_after_settle hw hsettle
  have hwhole : partOf e.who (l₁ ++ l₂ ++ e :: l₃) = opening id x y ++ (u ++ partOf e.who (e :: l₃)) := by
    rw [partOf_append, hopen, List.append_assoc]
  have hentered : partOf e.who l₂ ≠ [] := by
    intro hnone
    rw [partOf_append, hfresh, hnone] at hopen
    cases hopen
  have hsees : x.1.generation = ((storeAfter s l₁).vault id).slot.generation :=
    h.of_append.enter_generation hfresh hentered hwhole hquiet
  refine ⟨e.who, ⟨hfresh, hentered, x, y, _, hwhole, hgen⟩, ?_⟩
  -- any other one saw the same generation when it entered
  rintro j ⟨hfresh', hentered', x', y', u', hopen', hgen'⟩
  have hsees' : x'.1.generation = ((storeAfter s l₁).vault id).slot.generation :=
    h.of_append.enter_generation hfresh' hentered' hopen' hquiet
  exact h.start_unique hopen' hgen' hwhole hgen (hsees'.trans hsees.symm)

/-! ## Calls that another one overtook -/

/-- Only the holder of the lock writes outcomes. -/
theorem settles_eq_false_of_holding (h : Traffic id calls s (l₁ ++ l₂))
    (hholds : Holding id (partOf i l₁)) (hnone : partOf i l₂ = []) :
    ∀ e ∈ l₂, settles id e.act = false := by
  intro e he
  rcases List.append_of_mem he with ⟨m, m', rfl⟩
  rw [Bool.eq_false_iff]
  intro hsettle
  rw [← List.append_assoc] at h
  rcases h.settled hsettle with ⟨_, x, y, u, _, _, hquiet, hopen, _, _, _⟩
  have hwriter : Holding id (partOf e.who (l₁ ++ m)) := by
    rw [hopen]
    exact holding_opening fun z hz => (hquiet z hz).ne_release
  rw [partOf_append, List.append_eq_nil_iff] at hnone
  have hstill : Holding id (partOf i (l₁ ++ m)) := by
    rwa [partOf_append, hnone.1, List.append_nil]
  -- whoever writes holds the lock, so it is the holder, which does nothing here
  have hwho := h.of_append.locks.unique _ _ hwriter hstill
  rw [partOf_cons_eq hwho] at hnone
  cases hnone.2

variable {m₁ m₂ : List (Event ι)} {w a : Event ι}

/-- What an overtaken call has seen when it takes the lock. -/
theorem looked (h : Traffic id calls s (l₁ ++ e :: (m₁ ++ w :: m₂) ++ a :: l₂))
    (ho : Overtaken id i l₁ e m₁ w m₂ a) :
    ∃ x, partOf i (l₁ ++ e :: (m₁ ++ w :: m₂)) = [⟨.look id, x⟩] := by
  rcases h.asks with ⟨_, _, hact⟩ | ⟨refresh, _, hasks⟩
  · rw [ho.queued] at hact
    cases hact
  · rw [ho.queued, ho.who] at hasks
    -- the lock is free, so the call does not hold it yet
    refine hasks.acquire.resolve_right fun hholds => ?_
    have hlocked := h.of_append.locks.locked i hholds
    have hwaits := h.waits
    rw [ho.queued] at hwaits
    rw [show ((storeAfter s _).vault id).locked = false from hwaits] at hlocked
    cases hlocked

/-- An overtaken call does not start its refresh. -/
theorem not_started (h : Traffic id calls s (l₁ ++ e :: (m₁ ++ w :: m₂) ++ a :: l₂))
    (ho : Overtaken id i l₁ e m₁ w m₂ a) :
    ¬ Started id (partOf i (l₁ ++ e :: (m₁ ++ w :: m₂) ++ a :: l₂)) := by
  intro hstart
  rcases h.looked ho with ⟨x, hx⟩
  have hopen := hstart
  rcases hopen with ⟨x', y, u, hopen, _⟩
  rw [partOf_append, hx, partOf_cons_eq ho.who] at hopen
  simp only [opening, List.cons_append, List.nil_append, List.cons.injEq] at hopen
  rcases partOf_eq_cons hopen.2.2 with ⟨n, c, l₃, rfl, hn, hc, _, _⟩
  have hshape : l₁ ++ e :: (m₁ ++ w :: m₂) ++ a :: (n ++ c :: l₃) =
      l₁ ++ e :: (m₁ ++ w :: m₂ ++ a :: n) ++ c :: l₃ := by simp
  have hlooked : partOf i (l₁ ++ e :: (m₁ ++ w :: m₂ ++ a :: n)) =
      [⟨.look id, x⟩, ⟨.acquire id, ()⟩] := by
    rw [← List.cons_append, ← List.append_assoc, partOf_append, hx, partOf_cons_eq ho.who, hn,
      hopen.2.1]
    rfl
  rw [hshape] at h hstart
  -- a call that starts finds no write between its looks, and there is one
  have hquiet := h.undisturbed ho.enters ⟨hc, x, hlooked⟩ hstart w (by simp)
  rw [writes_of_settles ho.wrote] at hquiet
  cases hquiet

/-- From the latest write on the slot stays as it is until an overtaken call looks again. -/
theorem quiet_until_check {x : Look} {n l₃ : List (Event ι)}
    (h : Traffic id calls s (l₁ ++ e :: (m₁ ++ w :: m₂) ++ a :: (n ++ l₃)))
    (ho : Overtaken id i l₁ e m₁ w m₂ a) (hclear : ∀ z ∈ m₂ ++ n, z.act ≠ .forget id)
    (hx : partOf i (l₁ ++ e :: (m₁ ++ w :: m₂)) = [⟨.look id, x⟩]) (hn : partOf i n = []) :
    ∀ z ∈ m₂ ++ a :: n, writes id z.act = false := by
  have hshape : l₁ ++ e :: (m₁ ++ w :: m₂) ++ a :: (n ++ l₃) =
      l₁ ++ e :: (m₁ ++ w :: m₂) ++ [a] ++ n ++ l₃ := by simp
  have hholds : Holding id (partOf i (l₁ ++ e :: (m₁ ++ w :: m₂) ++ [a])) := by
    rw [partOf_append, hx, partOf_cons_eq ho.who, ho.took]
    exact ⟨by simp, by simp⟩
  -- the call holds the lock, so nobody else refreshes until it looks again
  have halone : ∀ z ∈ n, settles id z.act = false := by
    rw [hshape] at h
    exact h.of_append.settles_eq_false_of_holding hholds hn
  intro z hz
  rcases List.mem_append.1 hz with hm | hz
  · exact writes_eq_false_of_ne (ho.latest z hm) (hclear z (by simp [hm]))
  · rcases List.mem_cons.1 hz with rfl | hz
    · rw [ho.queued]
      rfl
    · exact writes_eq_false_of_ne (halone z hz) (hclear z (by simp [hz]))

/-- An overtaken call returns the outcome that was written last. -/
theorem returning {x y : Look} {u : Transcript World} {q : Run Outcome}
    (h : Traffic id calls s (l₁ ++ e :: (m₁ ++ w :: m₂) ++ a :: l₂))
    (ho : Overtaken id i l₁ e m₁ w m₂ a) (hclear : ∀ z ∈ m₂ ++ l₂, z.act ≠ .forget id)
    (hopen : partOf i (l₁ ++ e :: (m₁ ++ w :: m₂) ++ a :: l₂) = opening id x y ++ u)
    (hwalk : Walk (getOrRefresh id refresh) (opening id x y ++ u) q) :
    ∃ outcome, Completes id calls (l₁ ++ e :: m₁) w outcome ∧
      Returning id (observed outcome y.2) q := by
  have hdisturbed : y.1.generation ≠ x.1.generation := fun hgen =>
    h.not_started ho ⟨x, y, u, hopen, hgen⟩
  rcases h.looked ho with ⟨x', hx⟩
  rw [partOf_append, hx, partOf_cons_eq ho.who] at hopen
  simp only [opening, List.cons_append, List.nil_append, List.cons.injEq] at hopen
  rcases partOf_eq_cons hopen.2.2 with ⟨n, c, l₃, rfl, hn, _, hy, _⟩
  have hquiet := h.quiet_until_check ho
    (fun z hz => hclear z (by simp only [List.mem_append] at hz ⊢; tauto)) hx hn
  -- so the second look shows what was written last
  have hcheck : Traffic id calls s (l₁ ++ e :: m₁ ++ w :: (m₂ ++ a :: n) ++ c :: l₃) := by
    simpa using h
  rcases hcheck.of_append.slot_of_settled ho.wrote hquiet with ⟨outcome, hcompletes, hslot⟩
  refine ⟨outcome, hcompletes, ?_⟩
  obtain rfl := hcheck.look_eq hy
  rw [← shared_settled _ outcome, ← hslot]
  exact returning_of_walk hwalk hdisturbed

end Traffic

/-! ## Single flight -/

/-- What holds of every run of calls on one slot. -/
structure SingleFlight (id : SessionId) (calls : ι → Call) (l : List (Event ι)) : Prop where
  /-- One refresh runs at a time. -/
  exclusive : ∀ i j refresh refresh', calls i = .get refresh → calls j = .get refresh' →
    Refreshing id refresh (partOf i l) → Refreshing id refresh' (partOf j l) → i = j
  /-- A call starts its refresh only if nothing is written between its two looks. -/
  undisturbed : ∀ i l₁ e l₂ c l₃, l = l₁ ++ e :: l₂ ++ c :: l₃ → Enters i l₁ e →
    Checks id i (l₁ ++ e :: l₂) c → Started id (partOf i l) → ∀ x ∈ l₂, writes id x.act = false
  /-- The calls that enter before the first outcome, or between two outcomes, start one refresh if
  there is no clear. -/
  sole : ∀ l₁ l₂ w l₃, l = l₁ ++ l₂ ++ w :: l₃ →
    (l₁ = [] ∨ ∃ l y, l₁ = l ++ [y] ∧ settles id y.act = true) → settles id w.act = true →
    (∀ x ∈ l₂, writes id x.act = false) →
    ∃! i, partOf i l₁ = [] ∧ partOf i l₂ ≠ [] ∧ Started id (partOf i l)
  /-- A call that finds on taking the lock that another one wrote does not start its refresh. -/
  declines : ∀ i l₁ e m₁ w m₂ a l₂, l = l₁ ++ e :: (m₁ ++ w :: m₂) ++ a :: l₂ →
    Overtaken id i l₁ e m₁ w m₂ a → ¬ Started id (partOf i l)
  /-- It returns the outcome that was written last, as it stands when the call looks again. -/
  shares : ∀ i refresh l₁ e m₁ w m₂ a l₂ x y u q, l = l₁ ++ e :: (m₁ ++ w :: m₂) ++ a :: l₂ →
    Overtaken id i l₁ e m₁ w m₂ a → (∀ z ∈ m₂ ++ l₂, z.act ≠ .forget id) →
    calls i = .get refresh → partOf i l = opening id x y ++ u →
    Walk (getOrRefresh id refresh) (partOf i l) q →
    ∃ outcome, Completes id calls (l₁ ++ e :: m₁) w outcome ∧ Returning id (observed outcome y.2) q

/-- In every interleaving of calls on one slot their refreshes are made in single flight. -/
theorem single_flight {id : SessionId} {calls : ι → Call} {s : Store} {l : List (Event ι)}
    (h : Traffic id calls s l) : SingleFlight id calls l where
  exclusive := by
    intro i j refresh refresh' hi hj hrefreshing hrefreshing'
    exact h.locks.unique i j (hrefreshing.holding (h.tame _ _ hi) (h.locks.once i))
      (hrefreshing'.holding (h.tame _ _ hj) (h.locks.once j))
  undisturbed := by
    rintro i l₁ e l₂ c l₃ rfl henter hcheck hstart
    exact h.undisturbed henter hcheck hstart
  sole := by
    rintro l₁ l₂ w l₃ rfl hstart hsettle hquiet
    exact h.start_existsUnique hstart hsettle hquiet
  declines := by
    rintro i l₁ e m₁ w m₂ a l₂ rfl ho
    exact h.not_started ho
  shares := by
    rintro i refresh l₁ e m₁ w m₂ a l₂ x y u q rfl ho hclear _ hopen hwalk
    rw [hopen] at hwalk
    exact h.returning ho hclear hopen hwalk

/-- Two calls that race for an empty slot; the first refreshes without a credential. -/
def race : List (Event Bool) :=
  let now : Instant := ⟨0, 0⟩
  let refreshed : SlotState := { generation := 1 }
  [⟨true, .look 0, ({}, now), now⟩, ⟨false, .look 0, ({}, now), now⟩,
    ⟨true, .acquire 0, (), now⟩, ⟨true, .look 0, ({}, now), now⟩,
    ⟨true, .settle 0 (.ok none), now, now⟩, ⟨true, .release 0, (), now⟩,
    ⟨false, .acquire 0, (), now⟩, ⟨false, .look 0, (refreshed, now), now⟩,
    ⟨false, .release 0, (), now⟩]

theorem traffic_race : Traffic 0 (fun _ : Bool => .get (done (.ok none))) {} race where
  runs := by
    iterate 9 refine Runs.exists_cons (.mk rfl rfl (by trivial)) ?_
    exact ⟨_, .stop _⟩
  free := rfl
  tame := by
    intro i refresh h
    cases h
    trivial

theorem single_flight_race :
    Traffic 0 (fun _ : Bool => .get (done (.ok none))) {} race ∧
      SingleFlight 0 (fun _ : Bool => .get (done (.ok none))) race :=
  ⟨traffic_race, single_flight traffic_race⟩

end Slot
end Countersign
