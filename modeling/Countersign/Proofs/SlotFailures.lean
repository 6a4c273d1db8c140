import Countersign.Proofs.SlotAnswers

/-!
# Failures — they pass

A call on a slot returns a credential only on the word of a check, its last step that reads the clock.
A refresh that fails leaves the stored credential alone, and its failure goes to the calls that had
looked before it ended and to no later one: whoever enters when the others have left finds the lock
free, and refreshes on its own if it finds nothing live.

* `Slot.Shows` — a step shows a credential to its call, together with the time;
* `Slot.EntersAlone` — a call has not begun, and all others have ended or not begun;
* `Slot.Traffic.exists_holding` — a lock that is taken has a holder;
* `Slot.Passing` — what holds of the credentials and the failures in every run of calls on one slot.
-/

namespace Countersign
namespace Slot

open Program

variable {ι : Type} [DecidableEq ι]

/-! ## Checks -/

/-- Whether a step shows a credential to its call: a look finds it in the slot, or the outcome of the
call's own refresh is written with it.  Both read the clock. -/
inductive Shows (id : SessionId) (s : Store) (c : Credential) : Act → Prop where
  | look : (s.vault id).slot.credential = some c → Shows id s c (.look id)
  | settle : Shows id s c (.settle id (.ok (some c)))

namespace Traffic

variable {id : SessionId} {calls : ι → Call} {s : Store} {l l₁ l₂ m : List (Event ι)} {e : Event ι}
  {i : ι} {refresh : Run Outcome} {c : Credential} {x y : Look} {t u : Transcript World}

/-- A look in the middle of a part. -/
theorem look_of_part (h : Traffic id calls s l) (hpart : partOf i l = t ++ ⟨.look id, x⟩ :: u) :
    ∃ l₁ e l₂, l = l₁ ++ e :: l₂ ∧ e.who = i ∧ e.act = .look id ∧
      x = (((storeAfter s l₁).vault id).slot, e.time) ∧ partOf i l₂ = u := by
  rcases partOf_eq_append_cons hpart with ⟨l₁, e, l₂, rfl, _, hwho, hx, hu⟩
  exact ⟨l₁, e, l₂, rfl, hwho, (congrArg Sigma.fst hx).symm, h.look_eq hx, hu⟩

/-- The step with which a call writes the outcome of its refresh. -/
theorem settle_of_part (h : Traffic id calls s l) {outcome : Outcome} {now : Instant}
    (hget : calls i = .get refresh) (hend : Walk refresh u (done outcome))
    (hpart : partOf i l =
      opening id x y ++ (u ++ [⟨.settle id (outcomeText outcome), now⟩, ⟨.release id, ()⟩])) :
    ∃ l₁ w l₂, l = l₁ ++ w :: l₂ ∧ w.who = i ∧ Completes id calls l₁ w outcome ∧ now = w.time ∧
      partOf i l₁ ≠ [] ∧ partOf i l₂ = [⟨.release id, ()⟩] := by
  have hsplit : partOf i l = (opening id x y ++ u) ++
      ⟨.settle id (outcomeText outcome), now⟩ :: [⟨.release id, ()⟩] := by
    rw [hpart, List.append_assoc]
  rcases partOf_eq_append_cons hsplit with ⟨l₁, w, l₂, rfl, hbefore, rfl, hw, hafter⟩
  have hcompletes : Completes id calls l₁ w outcome :=
    ⟨refresh, x, y, u, hget, hbefore, hend, (congrArg Sigma.fst hw).symm⟩
  refine ⟨l₁, w, l₂, rfl, rfl, hcompletes, h.settle_eq hw, ?_, hafter⟩
  rw [hbefore]
  simp [opening]

/-- A credential that is returned was live at the check that showed it, and behind the check the call
only gives the lock back. -/
theorem live (h : Traffic id calls s l) (hget : calls i = .get refresh)
    (hwalk : Walk (getOrRefresh id refresh) (partOf i l) (done (.ok (some c)))) :
    ∃ l₁ e l₂, l = l₁ ++ e :: l₂ ∧ e.who = i ∧ Shows id (storeAfter s l₁) c e.act ∧
      c.isExpiredAt e.time = false ∧ ∀ z ∈ partOf i l₂, z.1 = .release id := by
  obtain ⟨part, v, hpart, hv, hends⟩ :
      ∃ part v, partOf i l = part ∧ v = .ok (some c) ∧ Ends id refresh part v :=
    ⟨_, _, rfl, rfl, ends_of_walk hwalk⟩
  cases hends with
  | @hit x c' hlive =>
      cases hv
      have hlook : partOf i l = [] ++ ⟨.look id, x⟩ :: [] := hpart
      rcases h.look_of_part hlook with ⟨l₁, e, l₂, rfl, hwho, hact, rfl, hnil⟩
      rcases Credential.liveAt_eq_some.1 hlive with ⟨hheld, hexpired⟩
      refine ⟨l₁, e, l₂, rfl, hwho, ?_, hexpired, by simp [hnil]⟩
      rw [hact]
      exact .look hheld
  | @yield x y _ _ =>
      have hlook : partOf i l = [⟨.look id, x⟩, ⟨.acquire id, ()⟩] ++
          ⟨.look id, y⟩ :: [⟨.release id, ()⟩] := hpart
      rcases h.look_of_part hlook with ⟨l₁, e, l₂, rfl, hwho, hact, rfl, hlast⟩
      -- a failure that was written last would have been shared instead
      unfold shared at hv
      split at hv
      · cases hv
      · rcases Credential.liveAt_eq_some.1 (Except.ok.inj hv) with ⟨hheld, hexpired⟩
        refine ⟨l₁, e, l₂, rfl, hwho, ?_, hexpired, by simp [hlast]⟩
        rw [hact]
        exact .look hheld
  | @leave x y u outcome now _ _ hend =>
      cases outcome with
      | error e => cases hv
      | ok held =>
          rcases Credential.liveAt_eq_some.1 (Except.ok.inj hv) with ⟨rfl, hexpired⟩
          rcases h.settle_of_part hget hend hpart with
            ⟨l₁, w, l₂, rfl, hwho, ⟨_, _, _, _, _, _, _, hact⟩, rfl, _, hlast⟩
          refine ⟨l₁, w, l₂, rfl, hwho, ?_, hexpired, by simp [hlast]⟩
          rw [hact]
          exact .settle

/-! ## Failures -/

/-- Only clears and successful refreshes change the credential in a slot. -/
theorem credential_eq (h : Traffic id calls s (l₁ ++ e :: l₂)) (hclear : e.act ≠ .forget id)
    (hok : ∀ c, e.act ≠ .settle id (.ok c)) :
    ((storeAfter s (l₁ ++ [e])).vault id).slot.credential =
      ((storeAfter s l₁).vault id).slot.credential := by
  rw [storeAfter_append, storeAfter_cons, storeAfter_nil]
  cases hsettle : settles id e.act with
  | false =>
      have hquiet := writes_eq_false_of_ne hsettle hclear
      rw [slot_onStore _ hquiet h.establishes_eq_false]
  | true =>
      rcases h.settled hsettle with ⟨_, _, _, _, outcome, _, _, _, _, _, hact⟩
      cases outcome with
      | ok c => exact absurd hact (hok c)
      | error reason => simp [hact, Act.onStore, SlotState.settled, outcomeText, Except.mapError]

/-- Until the next write a slot that was cleared is empty. -/
theorem cleared (h : Traffic id calls s (l₁ ++ e :: l₂)) (hact : e.act = .forget id)
    (hquiet : ∀ z ∈ l₂, writes id z.act = false) :
    ((storeAfter s (l₁ ++ e :: l₂)).vault id).slot = ((storeAfter s l₁).vault id).slot.cleared := by
  rw [List.append_cons] at h ⊢
  calc ((storeAfter s (l₁ ++ [e] ++ l₂)).vault id).slot
      = ((storeAfter s (l₁ ++ [e])).vault id).slot := h.slot_eq hquiet
    _ = ((storeAfter s l₁).vault id).slot.cleared := by
        rw [storeAfter_append, storeAfter_cons, storeAfter_nil, hact]
        simp [Act.onStore]

/-- An error that a call returns is the failure in which its own refresh ended, or the wording of one
in which another refresh ended after the call had entered. -/
theorem failure {v : AuthError} (h : Traffic id calls s l) (hget : calls i = .get refresh)
    (hwalk : Walk (getOrRefresh id refresh) (partOf i l) (done (.error v))) :
    ∃ l₁ w l₂ reason, l = l₁ ++ w :: l₂ ∧ Completes id calls l₁ w (.error reason) ∧
      partOf i l₁ ≠ [] ∧ (w.who = i ∧ v = reason ∨ w.who ≠ i ∧ v = .refresh reason.message) := by
  obtain ⟨part, r, hpart, hr, hends⟩ :
      ∃ part r, partOf i l = part ∧ r = .error v ∧ Ends id refresh part r :=
    ⟨_, _, rfl, rfl, ends_of_walk hwalk⟩
  cases hends with
  | hit _ => cases hr
  | @yield x y _ hgen =>
      rcases h.overwritten hpart hgen with ⟨l₁, e, m₁, w, m₂, c, l₂, rfl, ho, rfl⟩
      have hshape : l₁ ++ e :: (m₁ ++ w :: m₂) ++ c :: l₂ = (l₁ ++ e :: m₁) ++ w :: (m₂ ++ c :: l₂) := by
        simp
      have hclear : w.act ≠ .forget id := by
        intro hact
        -- behind a clear there is no failure to share
        have hbefore : Traffic id calls s ((l₁ ++ e :: m₁) ++ w :: m₂) := by
          simpa using h.of_append
        have hslot := hbefore.cleared hact ho.latest
        rw [← List.cons_append, ← List.append_assoc, hslot] at hr
        cases hr
      rcases h.completed ho hclear with ⟨outcome, hcompletes, hslot⟩
      rw [hslot, shared_settled] at hr
      cases outcome with
      | ok held => cases hr
      | error reason =>
          cases hr
          refine ⟨l₁ ++ e :: m₁, w, m₂ ++ c :: l₂, reason, hshape, hcompletes, ?_,
            .inr ⟨ho.who_ne, rfl⟩⟩
          rw [partOf_append, partOf_cons_eq ho.enters.1]
          simp
  | @leave x y u outcome now _ _ hend =>
      cases outcome with
      | ok held => cases hr
      | error reason =>
          cases hr
          rcases h.settle_of_part hget hend hpart with
            ⟨l₁, w, l₂, rfl, hwho, hcompletes, _, hentered, _⟩
          exact ⟨l₁, w, l₂, _, rfl, hcompletes, hentered, .inl ⟨hwho, rfl⟩⟩

end Traffic

/-- What a program does after it has entered comes behind all that came before it entered. -/
theorem exists_behind {l₁ l₂ a b : List (Event ι)} {w : Event ι} {i : ι}
    (h : l₁ ++ l₂ = a ++ w :: b) (hfresh : partOf i l₁ = []) (hentered : partOf i a ≠ []) :
    ∃ a', a = l₁ ++ a' ∧ l₂ = a' ++ w :: b := by
  rcases List.append_eq_append_iff.1 h with ⟨a', ha, hl₂⟩ | ⟨a', hl₁, _⟩
  · exact ⟨a', ha, hl₂⟩
  · apply absurd hfresh
    rw [hl₁, partOf_append]
    simp [hentered]

/-! ## Entering alone -/

/-- Whether a call has not begun, while all others have ended or not begun. -/
structure EntersAlone (id : SessionId) (calls : ι → Call) (i : ι) (l : List (Event ι)) : Prop where
  fresh : partOf i l = []
  others : ∀ j, j ≠ i → partOf j l = [] ∨ ∃ v, Walk ((calls j).program id) (partOf j l) (done v)

/-- The first steps of a call that enters alone: it looks, takes the lock and looks again. -/
def entering (id : SessionId) (i : ι) (x y : Look) (now : Instant) : List (Event ι) :=
  [⟨i, .look id, x, x.2⟩, ⟨i, .acquire id, (), now⟩, ⟨i, .look id, y, y.2⟩]

/-- A call that has ended has given the lock back. -/
theorem not_holding_of_done {id : SessionId} {c : Call} {t : Transcript World} {v : c.Result}
    (h : Walk (c.program id) t (done v)) : ¬ Holding id t := by
  rintro ⟨htake, hkept⟩
  cases c with
  | clear =>
      rcases walk_ask_iff.1 h with ⟨_, hq⟩ | ⟨_, t', rfl, h'⟩
      · cases hq
      · rcases walk_done_iff.1 h' with ⟨rfl, _⟩
        simp at htake
  | get refresh =>
      cases ends_of_walk h with
      | hit _ => simp at htake
      | yield _ _ | leave _ _ _ _ => exact hkept ⟨.release id, ()⟩ (by simp) rfl

namespace Traffic

variable {id : SessionId} {calls : ι → Call} {s : Store} {l l₁ l₂ m : List (Event ι)} {e : Event ι}
  {i : ι} {refresh : Run Outcome} {x y : Look} {u : Transcript World}

/-- One more step of a call that is there to ask it and does not have to wait. -/
theorem snoc (h : Traffic id calls s l) (hget : calls i = .get refresh) {op : Act}
    {next : op.Answer → Run Outcome}
    (hwalk : Walk (getOrRefresh id refresh) (partOf i l) (ask (I := World) op next))
    (answer : op.Answer) (now : Instant) (hwaits : op.waits (storeAfter s l) = false)
    (hadmits : op.Admits (storeAfter s l) now answer) :
    Traffic id calls s (l ++ [⟨i, op, answer, now⟩]) := by
  have hasks : ∃ next, Walk ((calls i).program id) (partOf i l) (ask (I := World) op next) := by
    rw [hget]
    exact ⟨next, hwalk⟩
  rcases hasks with ⟨next', hwalk'⟩
  rcases h.runs with ⟨d, hruns⟩
  have hprogram : d.programs i = ask (I := World) op next' := (hruns.walk i).unique hwalk'
  have hstore : d.store = storeAfter s l := hruns.store
  rw [← hstore] at hwaits hadmits
  exact ⟨⟨_, hruns.snoc (.mk hprogram hwaits hadmits)⟩, h.free, h.tame⟩

/-- A step that does not give the lock back leaves it with its holder. -/
theorem holding_append (hgive : e.act ≠ .release id) (h : Holding id (partOf i l)) :
    Holding id (partOf i (l ++ [e])) := by
  rw [partOf_append]
  refine ⟨List.mem_append_left _ h.1, ?_⟩
  intro z hz
  rcases List.mem_append.1 hz with hbefore | hnow
  · exact h.2 z hbefore
  · rcases mem_partOf hnow with ⟨l₁, e', l₂, he, _, rfl⟩
    have hmem : e' ∈ [e] := by
      rw [he]
      simp
    rwa [List.mem_singleton.1 hmem]

/-- A lock that is taken has a holder. -/
theorem exists_holding (h : Traffic id calls s l)
    (hlocked : ((storeAfter s l).vault id).locked = true) : ∃ i, Holding id (partOf i l) := by
  induction l using List.reverseRecOn with
  | nil =>
      rw [storeAfter_nil, h.free] at hlocked
      cases hlocked
  | append_singleton l e ih =>
      rw [storeAfter_append, storeAfter_cons, storeAfter_nil] at hlocked
      by_cases htake : takes id e.act = true
      · -- whoever takes the lock has only looked before
        have hact := takes_iff.1 htake
        refine ⟨e.who, ?_⟩
        rcases h.asks with ⟨_, _, hclear⟩ | ⟨refresh, _, hasks⟩
        · rw [hact] at hclear
          cases hclear
        · rw [hact] at hasks
          rcases hasks.acquire with ⟨x, hx⟩ | hholds
          · rcases e with ⟨j, op, answer, now⟩
            cases hact
            rw [partOf_append, hx, partOf_cons_self]
            exact ⟨by simp, by simp⟩
          · exact holding_append (by simp [hact]) hholds
      · by_cases hgive : e.act = .release id
        · rw [hgive] at hlocked
          simp [Act.onStore] at hlocked
        · -- any other step found the lock as it left it
          have hsame := locked_onStore (storeAfter s l) (Bool.eq_false_iff.2 htake) hgive
            h.establishes_eq_false
          rcases ih h.of_append (hsame.symm.trans hlocked) with ⟨i, hi⟩
          exact ⟨i, holding_append hgive hi⟩

/-- A call that enters alone finds the lock free. -/
theorem free_of_alone (h : Traffic id calls s l) (ha : EntersAlone id calls i l) :
    ((storeAfter s l).vault id).locked = false := by
  rw [← Bool.not_eq_true]
  intro hlocked
  rcases h.exists_holding hlocked with ⟨j, hj⟩
  by_cases hi : j = i
  · rw [hi, ha.fresh] at hj
    cases hj.1
  · rcases ha.others j hi with hnone | ⟨v, hended⟩
    · rw [hnone] at hj
      cases hj.1
    · exact not_holding_of_done hended hj

/-- A call that enters alone and finds nothing live can go on to its refresh. -/
theorem enters (h : Traffic id calls s l) (ha : EntersAlone id calls i l)
    (hget : calls i = .get refresh) (now : Instant)
    (hx : x.1 = ((storeAfter s l).vault id).slot) (hy : y.1 = ((storeAfter s l).vault id).slot)
    (hmissed : Missed x) :
    Traffic id calls s (l ++ entering id i x y now) ∧
      Walk (getOrRefresh id refresh) (partOf i (l ++ entering id i x y now))
        (refresh.bind (finish id)) := by
  have hlooked : Walk (getOrRefresh id refresh) [⟨.look id, x⟩]
      (ask (I := World) (.acquire id) fun _ => underLock id x.1.generation refresh) := by
    rw [getOrRefresh_eq]
    refine .answered ?_
    rw [show Credential.liveAt x.2 x.1.credential = none from hmissed]
    exact .here _
  have hqueued : Walk (getOrRefresh id refresh) [⟨.look id, x⟩, ⟨.acquire id, ()⟩]
      (underLock id x.1.generation refresh) := hlooked.snoc ()
  have hchecked : Walk (getOrRefresh id refresh) (opening id x y) (refresh.bind (finish id)) := by
    rw [underLock_eq] at hqueued
    have hstart := hqueued.snoc y
    rwa [if_neg (by simp [hx, hy])] at hstart
  -- neither the look nor the lock changes the slot, and the lock is free
  let l₁ := l ++ [⟨i, .look id, x, x.2⟩]
  let l₂ := l₁ ++ [⟨i, .acquire id, (), now⟩]
  have hpart₁ : partOf i l₁ = [⟨.look id, x⟩] := by
    rw [partOf_snoc, ha.fresh]
    rfl
  have hpart₂ : partOf i l₂ = [⟨.look id, x⟩, ⟨.acquire id, ()⟩] := by
    rw [partOf_snoc, hpart₁]
    rfl
  have hpart₃ : partOf i (l₂ ++ [⟨i, .look id, y, y.2⟩]) = opening id x y := by
    rw [partOf_snoc, hpart₂]
    rfl
  have hfirst : Traffic id calls s l₁ := by
    have hfresh : Walk (getOrRefresh id refresh) (partOf i l) (getOrRefresh id refresh) := by
      rw [ha.fresh]
      exact .here _
    rw [getOrRefresh_eq] at hfresh
    exact h.snoc hget hfresh x x.2 rfl (Prod.ext hx rfl)
  have hsecond : Traffic id calls s l₂ := by
    rw [← hpart₁] at hlooked
    refine hfirst.snoc hget hlooked () now ?_ trivial
    rw [storeAfter_append]
    exact h.free_of_alone ha
  have hthird : Traffic id calls s (l₂ ++ [⟨i, .look id, y, y.2⟩]) := by
    rw [← hpart₂, underLock_eq] at hqueued
    refine hsecond.snoc hget hqueued y y.2 rfl (Prod.ext ?_ rfl)
    rw [hy, storeAfter_append, storeAfter_append]
    simp [Act.onStore]
  have hshape : l ++ entering id i x y now = l₂ ++ [⟨i, .look id, y, y.2⟩] := by
    simp [entering, l₁, l₂]
  rw [hshape, hpart₃]
  exact ⟨hthird, hchecked⟩

/-- As long as a call is alone it finds the slot as it left it. -/
theorem generation_of_alone (h : Traffic id calls s (l ++ m)) (hfresh : partOf i l = [])
    (halone : ∀ e ∈ m, e.who = i) (hopen : partOf i m = opening id x y ++ u) :
    y.1.generation = x.1.generation := by
  by_contra hgen
  have hpart : partOf i (l ++ m) = opening id x y ++ u := by
    rw [partOf_append, hfresh, hopen, List.nil_append]
  rcases h.overwritten hpart hgen with ⟨l₁, e, m₁, w, m₂, c, l₂, hl, ho, _⟩
  have hentered : partOf i (l₁ ++ e :: m₁) ≠ [] := by
    rw [partOf_append, partOf_cons_eq ho.enters.1]
    simp
  have hshape : l ++ m = (l₁ ++ e :: m₁) ++ w :: (m₂ ++ c :: l₂) := by
    rw [hl]
    simp
  -- the write lies behind the first look, where there is nobody else
  rcases exists_behind hshape hfresh hentered with ⟨a, _, rfl⟩
  exact ho.who_ne (halone w (by simp))

/-- While a call refreshes no other call writes an outcome. -/
theorem settles_eq_false_of_refreshing {w : Event ι}
    (h : Traffic id calls s (l₁ ++ m ++ w :: l₂)) (hsettle : settles id w.act = true)
    (hstart : Started id (partOf w.who l₁)) : ∀ z ∈ m, settles id z.act = false := by
  intro z hz
  rcases List.append_of_mem hz with ⟨m₁, m₂, rfl⟩
  rcases h.settled hsettle with ⟨_, x, y, u, _, _, hquiet, hpart, _, _, _⟩
  have hkept : ∀ e ∈ partOf w.who (l₁ ++ (m₁ ++ z :: m₂)), e.1 ≠ .release id := by
    rw [hpart]
    exact (holding_opening fun e he => (hquiet e he).ne_release).2
  have hholds : Holding id (partOf w.who (l₁ ++ m₁)) := by
    rcases hstart with ⟨x', y', u', hopen, _⟩
    refine ⟨?_, ?_⟩
    · rw [partOf_append, hopen]
      simp [opening]
    · intro e he
      apply hkept
      rw [← List.append_assoc, partOf_append]
      exact List.mem_append_left _ he
  rw [Bool.eq_false_iff]
  intro hwrote
  -- whoever writes an outcome holds the lock, so it would be the same call
  have hbefore : Traffic id calls s (l₁ ++ m₁ ++ z :: m₂) := by simpa using h.of_append
  rcases hbefore.settled hwrote with ⟨_, _, _, _, _, _, hquiet', hpart', _, _, _⟩
  have hholds' : Holding id (partOf z.who (l₁ ++ m₁)) := by
    rw [hpart']
    exact holding_opening fun e he => (hquiet' e he).ne_release
  have hwho : z.who = w.who := hbefore.of_append.locks.unique _ _ hholds' hholds
  have hmem : (⟨z.act, z.answer⟩ : Entry World) ∈ partOf w.who (l₁ ++ (m₁ ++ z :: m₂)) := by
    rw [← List.append_assoc, partOf_append, partOf_cons_eq hwho]
    simp
  rw [hpart] at hmem
  have hnot : settles id z.act = false := settles_eq_false_of_mem hquiet hmem
  rw [hnot] at hwrote
  cases hwrote

/-- A refresh that ends in a failure leaves the credential as it was when the refresh started, unless a
clear comes in between. -/
theorem kept (h : Traffic id calls s (l₁ ++ m ++ e :: l₂)) {reason : AuthError}
    (hfails : Completes id calls (l₁ ++ m) e (.error reason))
    (hstart : Started id (partOf e.who l₁)) (hclear : ∀ z ∈ m, z.act ≠ .forget id) :
    ((storeAfter s (l₁ ++ m ++ [e])).vault id).slot.credential =
      ((storeAfter s l₁).vault id).slot.credential := by
  rcases hfails with ⟨_, _, _, _, _, _, _, hact⟩
  have hsettle : settles id e.act = true := by simp [hact, settles]
  have hquiet : ∀ z ∈ m, writes id z.act = false := fun z hz =>
    writes_eq_false_of_ne (h.settles_eq_false_of_refreshing hsettle hstart z hz) (hclear z hz)
  calc ((storeAfter s (l₁ ++ m ++ [e])).vault id).slot.credential
      = ((storeAfter s (l₁ ++ m)).vault id).slot.credential :=
        h.credential_eq (by simp [hact]) (by simp [hact, outcomeText, Except.mapError])
    _ = ((storeAfter s l₁).vault id).slot.credential := by rw [h.of_append.slot_eq hquiet]

end Traffic

/-! ## What holds of every run -/

/-- Whether a call has run its own refresh and returns what that came to. -/
def Refreshed (id : SessionId) (refresh : Run Outcome) (t : Transcript World) (v : Outcome) : Prop :=
  ∃ x y u outcome now, t = opening id x y ++
      (u ++ [⟨.settle id (outcomeText outcome), now⟩, ⟨.release id, ()⟩]) ∧
    Walk refresh u (done outcome) ∧ v = own outcome now

/-- A call that is alone and finds nothing live returns what its own refresh comes to. -/
theorem Traffic.refreshed_of_alone {id : SessionId} {calls : ι → Call} {s : Store}
    {l m : List (Event ι)} {i : ι} {refresh : Run Outcome} {x : Look} {t : Transcript World}
    {v : Outcome} (h : Traffic id calls s (l ++ m)) (hfresh : partOf i l = [])
    (halone : ∀ e ∈ m, e.who = i) (hfirst : partOf i m = ⟨.look id, x⟩ :: t) (hmissed : Missed x)
    (hwalk : Walk (getOrRefresh id refresh) (partOf i m) (done v)) :
    Refreshed id refresh (partOf i m) v := by
  have hends := ends_of_walk hwalk
  generalize hpart : partOf i m = part at hends
  cases hends with
  | @hit x' c hlive =>
      rw [hfirst] at hpart
      cases hpart
      rw [Missed, hlive] at hmissed
      cases hmissed
  | yield _ hgen => exact absurd (h.generation_of_alone hfresh halone hpart) hgen
  | @leave x' y u outcome now _ _ hend => exact ⟨x', y, u, outcome, now, rfl, hend, rfl⟩

/-- What holds of credentials and failures in a run of calls on one slot. -/
structure Passing (id : SessionId) (calls : ι → Call) (s : Store) (l : List (Event ι)) : Prop where
  /-- A credential that is returned was live at the check that showed it, behind which the call only
  gives the lock back. -/
  live : ∀ i refresh c, calls i = .get refresh →
    Walk (getOrRefresh id refresh) (partOf i l) (done (.ok (some c))) →
    ∃ l₁ e l₂, l = l₁ ++ e :: l₂ ∧ e.who = i ∧ Shows id (storeAfter s l₁) c e.act ∧
      c.isExpiredAt e.time = false ∧ ∀ z ∈ partOf i l₂, z.1 = .release id
  /-- Only clears and successful refreshes change the stored credential. -/
  changed : ∀ l₁ e l₂, l = l₁ ++ e :: l₂ → e.act ≠ .forget id →
    (∀ c, e.act ≠ .settle id (.ok c)) → ∀ (σ : Type) (o : Outside σ) (outside : σ),
    ((last id).alone o (storeAfter s (l₁ ++ [e]), outside)).1 =
      ((last id).alone o (storeAfter s l₁, outside)).1
  /-- A refresh that ends in a failure leaves it as it was when the refresh started, unless a clear comes
  in between. -/
  kept : ∀ l₁ m w l₂ reason, l = l₁ ++ m ++ w :: l₂ →
    Completes id calls (l₁ ++ m) w (.error reason) → Started id (partOf w.who l₁) →
    (∀ z ∈ m, z.act ≠ .forget id) → ∀ (σ : Type) (o : Outside σ) (outside : σ),
    ((last id).alone o (storeAfter s (l₁ ++ m ++ [w]), outside)).1 =
      ((last id).alone o (storeAfter s l₁, outside)).1
  /-- An error is returned to the call whose refresh ended in it, or in its wording to another call that
  had entered before this refresh ended: the refresh of an error that a call returns which enters
  behind some steps ends behind these steps. -/
  failed : ∀ i refresh v l₁ l₂, calls i = .get refresh → l = l₁ ++ l₂ → partOf i l₁ = [] →
    Walk (getOrRefresh id refresh) (partOf i l) (done (.error v)) →
    ∃ a w b reason, l₂ = a ++ w :: b ∧ Completes id calls (l₁ ++ a) w (.error reason) ∧
      partOf i (l₁ ++ a) ≠ [] ∧ (w.who = i ∧ v = reason ∨ w.who ≠ i ∧ v = .refresh reason.message)
  /-- A call that enters alone and finds nothing live can go on to its refresh. -/
  retries : ∀ i refresh x y now, calls i = .get refresh → EntersAlone id calls i l →
    x.1 = ((storeAfter s l).vault id).slot → y.1 = ((storeAfter s l).vault id).slot → Missed x →
    Traffic id calls s (l ++ entering id i x y now) ∧
      Walk (getOrRefresh id refresh) (partOf i (l ++ entering id i x y now))
        (refresh.bind (finish id))
  /-- As long as it is alone there is nothing else that it can do: it starts its refresh, and returns
  what that comes to. -/
  retried : ∀ i refresh m x t, calls i = .get refresh → EntersAlone id calls i l →
    (∀ e ∈ m, e.who = i) → Traffic id calls s (l ++ m) → partOf i m = ⟨.look id, x⟩ :: t → Missed x →
    (∀ y u, partOf i m = opening id x y ++ u → Started id (partOf i m)) ∧
      ∀ v, Walk (getOrRefresh id refresh) (partOf i m) (done v) → Refreshed id refresh (partOf i m) v

/-- In every interleaving of calls on one slot the credentials that are returned are live, and failures
pass. -/
theorem passing {id : SessionId} {calls : ι → Call} {s : Store} {l : List (Event ι)}
    (h : Traffic id calls s l) : Passing id calls s l where
  live i refresh c hget hwalk := h.live hget hwalk
  changed := by
    rintro l₁ e l₂ rfl hclear hok σ o outside
    exact h.credential_eq hclear hok
  kept := by
    rintro l₁ m w l₂ reason rfl hfails hstart hclear σ o outside
    exact h.kept hfails hstart hclear
  failed := by
    rintro i refresh v l₁ l₂ hget rfl hfresh hwalk
    rcases h.failure hget hwalk with ⟨a, w, b, reason, hl, hfails, hentered, hv⟩
    rcases exists_behind hl hfresh hentered with ⟨a', rfl, hl₂⟩
    exact ⟨a', w, b, reason, hl₂, hfails, hentered, hv⟩
  retries i refresh x y now hget ha hx hy hmissed := h.enters ha hget now hx hy hmissed
  retried i refresh m x t hget ha halone hm hfirst hmissed := by
    refine ⟨?_, ?_⟩
    · intro y u hopen
      exact ⟨x, y, u, hopen, hm.generation_of_alone ha.fresh halone hopen⟩
    · intro v hwalk
      exact hm.refreshed_of_alone ha.fresh halone hfirst hmissed hwalk

/-- The first refresh fails, and a later one succeeds. -/
def recovering : Bool → Call
  | true => .get (done (.error (.negotiation "no grant")))
  | false => .get (done (.ok (some { (default : Credential) with expiration := ⟨1, 0⟩ })))

/-- The first call fails. -/
def failing : List (Event Bool) :=
  let now : Instant := ⟨0, 0⟩
  let reason : String := (AuthError.negotiation "no grant").message
  [⟨true, .look 0, ({}, now), now⟩, ⟨true, .acquire 0, (), now⟩, ⟨true, .look 0, ({}, now), now⟩,
    ⟨true, .settle 0 (.error reason), now, now⟩, ⟨true, .release 0, (), now⟩]

/-- The slot behind it. -/
def failedSlot : SlotState :=
  { generation := 1, lastFailure := some (AuthError.negotiation "no grant").message }

/-- The second call enters alone. -/
def recovery : List (Event Bool) :=
  let now : Instant := ⟨0, 0⟩
  entering 0 false (failedSlot, now) (failedSlot, now) now ++
    [⟨false, .settle 0 (.ok (some { (default : Credential) with expiration := ⟨1, 0⟩ })), now, now⟩,
      ⟨false, .release 0, (), now⟩]

theorem traffic_recovery : Traffic 0 recovering {} (failing ++ recovery) where
  runs := by
    iterate 10 refine Runs.exists_cons (.mk rfl rfl (by trivial)) ?_
    exact ⟨_, .stop _⟩
  free := rfl
  tame := by
    intro i refresh h
    cases i with
    | true =>
        cases h
        trivial
    | false =>
        cases h
        trivial

theorem walk_recovery :
    Walk (getOrRefresh 0 (done (.ok (some { (default : Credential) with expiration := ⟨1, 0⟩ }))))
      (partOf false (failing ++ recovery))
      (done (.ok (some { (default : Credential) with expiration := ⟨1, 0⟩ }))) :=
  .answered (.answered (.answered (.answered (.answered (.here _)))))

theorem entersAlone_failing : EntersAlone 0 recovering false failing where
  fresh := rfl
  others := by
    intro j hj
    cases j with
    | true => exact .inr ⟨_, .answered (.answered (.answered (.answered (.answered (.here _)))))⟩
    | false => exact absurd rfl hj

/-- A call behind one whose refresh failed refreshes on its own, and returns a credential that is
live. -/
theorem passing_recovery :
    Traffic 0 recovering {} (failing ++ recovery) ∧ EntersAlone 0 recovering false failing ∧
      Passing 0 recovering {} (failing ++ recovery) ∧
      Refreshed 0 (done (.ok (some { (default : Credential) with expiration := ⟨1, 0⟩ })))
        (partOf false recovery)
        (.ok (some { (default : Credential) with expiration := ⟨1, 0⟩ })) := by
  have hearly : Passing 0 recovering {} failing := passing traffic_recovery.of_append
  have halone : ∀ e ∈ recovery, e.who = false := by decide
  exact ⟨traffic_recovery, entersAlone_failing, passing traffic_recovery,
    (hearly.retried false _ recovery _ _ rfl entersAlone_failing halone traffic_recovery rfl rfl).2 _
      walk_recovery⟩

end Slot
end Countersign
