import Countersign.Proofs.SingleFlight

/-!
# Answers — the refresh behind each of them

A call that finds no live credential at first answers with the outcome of a refresh: with that of its
own, or with the one that another call wrote while it queued.  A failure is shared in its wording
only.  A clear while the call queues changes the generation as well, and a call cannot tell it from a
refresh: where nothing is written behind the clear it answers that there is no credential, although
nobody need have refreshed.  This file defines:

* `Slot.Overwritten` — a call between whose looks the slot was written, and the latest write;
* `Slot.Backed` — an answer with the refresh behind it;
* `Slot.Answering` — what holds of the answers in every run of calls on one slot;
* `Slot.unbacked` — a call that takes a clear for a refresh.
-/

namespace Countersign
namespace Slot

open Program

variable {ι : Type} [DecidableEq ι]

/-! ## Writes between two looks -/

/-- Whether the slot is written between the two looks of a call, and which write is the latest. -/
structure Overwritten (id : SessionId) (i : ι) (l₁ : List (Event ι)) (e : Event ι)
    (m₁ : List (Event ι)) (w : Event ι) (m₂ : List (Event ι)) (c : Event ι) : Prop where
  enters : Enters i l₁ e
  wrote : writes id w.act = true
  latest : ∀ z ∈ m₂, writes id z.act = false
  checks : Checks id i (l₁ ++ e :: (m₁ ++ w :: m₂)) c

/-- Between its two looks a call writes nothing. -/
theorem Overwritten.who_ne {id : SessionId} {i : ι} {l₁ m₁ m₂ : List (Event ι)} {e w c : Event ι}
    (h : Overwritten id i l₁ e m₁ w m₂ c) : w.who ≠ i := by
  intro hwho
  rcases h.checks with ⟨_, x, hlooked⟩
  have hmem : (⟨w.act, w.answer⟩ : Entry World) ∈ [⟨.look id, x⟩, ⟨.acquire id, ()⟩] := by
    rw [← hlooked, ← List.cons_append, ← List.append_assoc, partOf_append, partOf_cons_eq hwho]
    simp
  have hwrote := h.wrote
  simp only [List.mem_cons, List.not_mem_nil, or_false] at hmem
  rcases hmem with hlook | htake
  · rw [show w.act = .look id from congrArg Sigma.fst hlook] at hwrote
    cases hwrote
  · rw [show w.act = .acquire id from congrArg Sigma.fst htake] at hwrote
    cases hwrote

omit [DecidableEq ι] in
/-- Some steps in which the slot is written have a latest write. -/
theorem exists_latest_write {id : SessionId} {l : List (Event ι)}
    (h : ∃ z ∈ l, writes id z.act = true) :
    ∃ m₁ w m₂, l = m₁ ++ w :: m₂ ∧ writes id w.act = true ∧ ∀ z ∈ m₂, writes id z.act = false := by
  induction l with
  | nil =>
      rcases h with ⟨z, hz, _⟩
      cases hz
  | cons e l ih =>
      by_cases hrest : ∃ z ∈ l, writes id z.act = true
      · rcases ih hrest with ⟨m₁, w, m₂, rfl, hwrite, hquiet⟩
        exact ⟨e :: m₁, w, m₂, rfl, hwrite, hquiet⟩
      · have hquiet : ∀ z ∈ l, writes id z.act = false := by simpa using hrest
        refine ⟨[], e, l, rfl, ?_, hquiet⟩
        rcases h with ⟨z, hz, hwrite⟩
        rcases List.mem_cons.1 hz with rfl | hz
        · exact hwrite
        · rw [hquiet z hz] at hwrite
          cases hwrite

namespace Traffic

variable {id : SessionId} {calls : ι → Call} {s : Store} {l l₁ l₂ m₁ m₂ : List (Event ι)}
  {e w c : Event ι} {i : ι} {x y : Look} {u : Transcript World}

/-- A write tells the time. -/
theorem settle_eq (h : Traffic id calls s (l₁ ++ e :: l₂))
    {outcome : Except String (Option Credential)} {now : Instant}
    (hx : (⟨.settle id outcome, now⟩ : Entry World) = ⟨e.act, e.answer⟩) : now = e.time := by
  have hadmits := h.admits
  rcases e with ⟨who, act, answer, time⟩
  cases hx
  exact hadmits

/-- If the two looks of a call show different generations, then the slot was written in between. -/
theorem overwritten (h : Traffic id calls s l) (hopen : partOf i l = opening id x y ++ u)
    (hgen : y.1.generation ≠ x.1.generation) :
    ∃ l₁ e m₁ w m₂ c l₂, l = l₁ ++ e :: (m₁ ++ w :: m₂) ++ c :: l₂ ∧
      Overwritten id i l₁ e m₁ w m₂ c ∧
      y = (((storeAfter s (l₁ ++ e :: (m₁ ++ w :: m₂))).vault id).slot, c.time) := by
  rcases h.check hopen with ⟨l₀, c, l₂, rfl, hc, hlooked, _, hy⟩
  rcases partOf_eq_cons hlooked with ⟨l₁, e, m, rfl, hfresh, he, hx, _⟩
  have hbefore : Traffic id calls s (l₁ ++ e :: m) := h.of_append
  have hwritten : ∃ z ∈ m, writes id z.act = true := by
    by_contra hnone
    apply hgen
    -- the look of the call writes nothing either, so both looks show the same slot
    have hquiet : ∀ z ∈ e :: m, writes id z.act = false := by
      intro z hz
      rcases List.mem_cons.1 hz with rfl | hz
      · rw [show z.act = .look id from (congrArg Sigma.fst hx).symm]
        rfl
      · exact Bool.eq_false_iff.2 fun hwrite => hnone ⟨z, hz, hwrite⟩
    rw [hy, hbefore.look_eq hx, hbefore.slot_eq hquiet]
  rcases exists_latest_write hwritten with ⟨m₁, w, m₂, rfl, hwrite, hlatest⟩
  exact ⟨l₁, e, m₁, w, m₂, c, l₂, rfl, ⟨⟨he, hfresh⟩, hwrite, hlatest, hc, x, hlooked⟩, hy⟩

/-- If the latest write is a clear, then the second look shows a slot that looks as if a refresh had given
no credential. -/
theorem shared_cleared (h : Traffic id calls s (l₁ ++ e :: (m₁ ++ w :: m₂) ++ c :: l₂))
    (ho : Overwritten id i l₁ e m₁ w m₂ c) (hclear : w.act = .forget id) (now : Instant) :
    shared ((storeAfter s (l₁ ++ e :: (m₁ ++ w :: m₂))).vault id).slot now = .ok none := by
  have hbefore := h.of_append
  -- behind the clear nothing is written, so the check sees the slot that it left
  rw [← List.cons_append, ← List.append_assoc, List.append_cons] at hbefore ⊢
  rw [hbefore.slot_eq ho.latest, storeAfter_append, storeAfter_cons, storeAfter_nil, hclear]
  simp [Act.onStore, SlotState.cleared, shared, Credential.liveAt]

/-- If the latest write is no clear, then it is the outcome of the refresh of another call, and the
second look shows it. -/
theorem completed (h : Traffic id calls s (l₁ ++ e :: (m₁ ++ w :: m₂) ++ c :: l₂))
    (ho : Overwritten id i l₁ e m₁ w m₂ c) (hclear : w.act ≠ .forget id) :
    ∃ outcome, Completes id calls (l₁ ++ e :: m₁) w outcome ∧
      ((storeAfter s (l₁ ++ e :: (m₁ ++ w :: m₂))).vault id).slot =
        ((storeAfter s (l₁ ++ e :: m₁)).vault id).slot.settled (outcomeText outcome) := by
  have hsettle : settles id w.act = true := by
    by_contra hno
    have hwrote := ho.wrote
    rw [writes_eq_false_of_ne (Bool.eq_false_iff.2 hno) hclear] at hwrote
    cases hwrote
  have hbefore := h.of_append
  rw [← List.cons_append, ← List.append_assoc] at hbefore ⊢
  exact hbefore.slot_of_settled hsettle ho.latest

end Traffic

/-! ## Answers -/

/-- What stands behind an answer: the outcome of the call's own refresh, at the time of its write, or
the outcome that another call wrote last while this one queued, at the time of its second look, or
nothing but a clear, if that is the latest write. -/
inductive Backed (id : SessionId) (calls : ι → Call) (i : ι)
    (mine others : Outcome → Instant → Prop) (nobodys : Prop) : List (Event ι) → Prop where
  | own {l₁ l₂ : List (Event ι)} {w : Event ι} {outcome : Outcome} :
      w.who = i → Completes id calls l₁ w outcome → mine outcome w.time →
      Backed id calls i mine others nobodys (l₁ ++ w :: l₂)
  | other {l₁ m₁ m₂ l₂ : List (Event ι)} {e w c : Event ι} {outcome : Outcome} :
      Overwritten id i l₁ e m₁ w m₂ c → w.who ≠ i → Completes id calls (l₁ ++ e :: m₁) w outcome →
      others outcome c.time →
      Backed id calls i mine others nobodys (l₁ ++ e :: (m₁ ++ w :: m₂) ++ c :: l₂)
  | cleared {l₁ m₁ m₂ l₂ : List (Event ι)} {e w c : Event ι} :
      Overwritten id i l₁ e m₁ w m₂ c → w.act = .forget id → nobodys →
      Backed id calls i mine others nobodys (l₁ ++ e :: (m₁ ++ w :: m₂) ++ c :: l₂)

theorem Backed.mono {id : SessionId} {calls : ι → Call} {i : ι}
    {mine others mine' others' : Outcome → Instant → Prop} {nobodys nobodys' : Prop}
    {l : List (Event ι)} (h : Backed id calls i mine others nobodys l)
    (hmine : ∀ outcome now, mine outcome now → mine' outcome now)
    (hothers : ∀ outcome now, others outcome now → others' outcome now)
    (hnobodys : nobodys → nobodys') : Backed id calls i mine' others' nobodys' l := by
  cases h with
  | own hwho hcompletes hm => exact .own hwho hcompletes (hmine _ _ hm)
  | other ho hwho hcompletes hm => exact .other ho hwho hcompletes (hothers _ _ hm)
  | cleared ho hclear hn => exact .cleared ho hclear (hnobodys hn)

/-- Whether an outcome leaves no live credential at a time. -/
def Lapsed (outcome : Outcome) (now : Instant) : Prop :=
  outcome = .ok none ∨ ∃ held, outcome = .ok (some held) ∧ held.isExpiredAt now = true

theorem lapsed_of_liveAt {held : Option Credential} {now : Instant}
    (h : Credential.liveAt now held = none) : Lapsed (.ok held) now := by
  cases held with
  | none => exact .inl rfl
  | some held =>
      rw [Credential.liveAt_some] at h
      split at h
      · next hexpired => exact .inr ⟨held, rfl, hexpired⟩
      · cases h

theorem lapsed_of_own {outcome : Outcome} {now : Instant} (h : own outcome now = .ok none) :
    Lapsed outcome now := by
  cases outcome with
  | error e => cases h
  | ok held => exact lapsed_of_liveAt (Except.ok.inj h)

theorem lapsed_of_observed {outcome : Outcome} {now : Instant}
    (h : observed outcome now = .ok none) : Lapsed outcome now := by
  cases outcome with
  | error e => cases h
  | ok held => exact lapsed_of_liveAt (Except.ok.inj h)

/-- What holds of the answers in every run of calls on one slot. -/
structure Answering (id : SessionId) (calls : ι → Call) (l : List (Event ι)) : Prop where
  /-- A call that finds nothing live at first answers with the outcome of its own refresh, or with
  that of another one that ended while it queued; or there is no credential, since a clear came last. -/
  backed : ∀ i refresh x t v, calls i = .get refresh → partOf i l = ⟨.look id, x⟩ :: t → Missed x →
    Walk (getOrRefresh id refresh) (partOf i l) (done v) →
    Backed id calls i (v = own · ·) (v = observed · ·) (v = .ok none) l
  /-- It answers without a credential only if that outcome left none that is live, or a clear came
  last. -/
  lapsed : ∀ i refresh x t, calls i = .get refresh → partOf i l = ⟨.look id, x⟩ :: t → Missed x →
    Walk (getOrRefresh id refresh) (partOf i l) (done (.ok none)) →
    Backed id calls i Lapsed Lapsed True l

theorem Traffic.backed {id : SessionId} {calls : ι → Call} {s : Store} {l : List (Event ι)} {i : ι}
    {refresh : Run Outcome} {x : Look} {t : Transcript World} {v : Outcome}
    (h : Traffic id calls s l) (hget : calls i = .get refresh)
    (hfirst : partOf i l = ⟨.look id, x⟩ :: t) (hmissed : Missed x)
    (hwalk : Walk (getOrRefresh id refresh) (partOf i l) (done v)) :
    Backed id calls i (v = own · ·) (v = observed · ·) (v = .ok none) l := by
  have hends := ends_of_walk hwalk
  generalize hpart : partOf i l = part at hends
  cases hends with
  | @hit x' c hlive =>
      -- there was nothing live at the first look
      rw [hfirst] at hpart
      cases hpart
      rw [Missed, hlive] at hmissed
      cases hmissed
  | @yield x' y _ hgen =>
      rcases h.overwritten hpart hgen with ⟨l₁, e, m₁, w, m₂, c, l₂, rfl, ho, rfl⟩
      by_cases hclear : w.act = .forget id
      · exact .cleared ho hclear (h.shared_cleared ho hclear _)
      · rcases h.completed ho hclear with ⟨outcome, hcompletes, hslot⟩
        refine .other ho ho.who_ne hcompletes ?_
        rw [hslot]
        exact shared_settled _ outcome _
  | @leave x' y u outcome now _ hgen hend =>
      -- the write of the call is the step behind its refresh
      rw [← List.append_assoc] at hpart
      rcases partOf_eq_append_cons hpart with ⟨l₁, w, l₂, rfl, hwork, hwho, hw, _⟩
      have hbehind : partOf w.who l₁ = opening id x' y ++ u := hwho ▸ hwork
      obtain rfl := h.settle_eq hw
      exact .own hwho ⟨refresh, x', y, u, hwho ▸ hget, hbehind, hend, (congrArg Sigma.fst hw).symm⟩ rfl

/-- In every interleaving of calls on one slot a refresh stands behind the answers, unless a clear does. -/
theorem answering {id : SessionId} {calls : ι → Call} {s : Store} {l : List (Event ι)}
    (h : Traffic id calls s l) : Answering id calls l where
  backed := by
    intro i refresh x t v hget hfirst hmissed hwalk
    exact h.backed hget hfirst hmissed hwalk
  lapsed := by
    intro i refresh x t hget hfirst hmissed hwalk
    refine (h.backed hget hfirst hmissed hwalk).mono ?_ ?_ ?_
    · exact fun outcome now hown => lapsed_of_own hown.symm
    · exact fun outcome now hobserved => lapsed_of_observed hobserved.symm
    · exact fun _ => trivial

/-- Two calls that race for an empty slot; the refresh of the first one fails. -/
def refusing : Bool → Call
  | true => .get (done (.error (.negotiation "no grant")))
  | false => .get (done (.ok none))

/-- What the second call gets of that failure. -/
def shareOfFailure : Outcome := .error (.refresh (AuthError.negotiation "no grant").message)

/-- The first call fails while the second one queues. -/
def refused : List (Event Bool) :=
  let now : Instant := ⟨0, 0⟩
  let reason : String := (AuthError.negotiation "no grant").message
  let failed : SlotState := { generation := 1, lastFailure := some reason }
  [⟨true, .look 0, ({}, now), now⟩, ⟨false, .look 0, ({}, now), now⟩,
    ⟨true, .acquire 0, (), now⟩, ⟨true, .look 0, ({}, now), now⟩,
    ⟨true, .settle 0 (.error reason), now, now⟩, ⟨true, .release 0, (), now⟩,
    ⟨false, .acquire 0, (), now⟩, ⟨false, .look 0, (failed, now), now⟩,
    ⟨false, .release 0, (), now⟩]

theorem traffic_refused : Traffic 0 refusing {} refused where
  runs := by
    iterate 9 refine Runs.exists_cons (.mk rfl rfl (by trivial)) ?_
    exact ⟨_, .stop _⟩
  free := rfl
  tame := by
    intro i refresh h
    cases i with
    | true =>
        cases h
        trivial
    | false =>
        cases h
        trivial

theorem walk_refused :
    Walk (getOrRefresh 0 (done (.ok none))) (partOf false refused) (done shareOfFailure) :=
  .answered (.answered (.answered (.answered (.here _))))

theorem answering_refused :
    Traffic 0 refusing {} refused ∧ Answering 0 refusing refused ∧
      Backed 0 refusing false (shareOfFailure = own · ·) (shareOfFailure = observed · ·)
        (shareOfFailure = .ok none) refused :=
  ⟨traffic_refused, answering traffic_refused,
    (answering traffic_refused).backed false _ _ _ _ rfl rfl rfl walk_refused⟩

/-- A call queues for an empty slot, and another one clears it. -/
def forgetting : Bool → Call
  | true => .clear
  | false => .get (done (.ok (some { (default : Credential) with expiration := ⟨1, 0⟩ })))

/-- The slot is cleared between the two looks. -/
def forgotten : List (Event Bool) :=
  let now : Instant := ⟨0, 0⟩
  let cleared : SlotState := { generation := 1 }
  [⟨false, .look 0, ({}, now), now⟩, ⟨true, .forget 0, (), now⟩, ⟨false, .acquire 0, (), now⟩,
    ⟨false, .look 0, (cleared, now), now⟩, ⟨false, .release 0, (), now⟩]

theorem traffic_forgotten : Traffic 0 forgetting {} forgotten where
  runs := by
    iterate 5 refine Runs.exists_cons (.mk rfl rfl (by trivial)) ?_
    exact ⟨_, .stop _⟩
  free := rfl
  tame := by
    intro i refresh h
    cases i with
    | true => cases h
    | false =>
        cases h
        trivial

theorem not_started_of_yield {id : SessionId} {x y : Look} {u : Transcript World}
    (hgen : y.1.generation ≠ x.1.generation) : ¬ Started id (opening id x y ++ u) := by
  rintro ⟨x', y', u', hopen, hsame⟩
  rcases opening_append_inj.1 hopen with ⟨rfl, rfl, _⟩
  exact hgen hsame

/-- A call whose slot is cleared while it queues takes the clear for a refresh: it answers that there is
no credential, although nobody refreshes, and its own refresh would give one. -/
theorem unbacked :
    Traffic 0 forgetting {} forgotten ∧
      (∃ x t, partOf false forgotten = ⟨.look 0, x⟩ :: t ∧ Missed x) ∧
      Walk (getOrRefresh 0
          (done (.ok (some { (default : Credential) with expiration := ⟨1, 0⟩ }))))
        (partOf false forgotten) (done (.ok none)) ∧
      ¬ Started 0 (partOf false forgotten) ∧ ∀ e ∈ forgotten, settles 0 e.act = false := by
  refine ⟨traffic_forgotten, ⟨_, _, rfl, rfl⟩, ?_, ?_, ?_⟩
  · exact .answered (.answered (.answered (.answered (.here _))))
  · exact not_started_of_yield (by decide)
  · decide

end Slot
end Countersign
