import Countersign.Proofs.Walk
import Countersign.Run.World
import Mathlib.Logic.Function.Basic

/-!
# Interleavings — programs that share the store

Programs run side by side, each of them one question at a time, in any order.  The store answers for
its part as it is at that moment; what lies outside of it answers anything.  This file defines:

* `Event` — one step of one program, with its answer and what the clock shows;
* `Runs c l d` — the steps `l` lead from the configuration `c` to `d`;
* `partOf i l` — what the program `i` asked in `l`, with the answers;
* `storeAfter s l` — the store behind `l`;
* `steps u` — what a program that runs alone asked, as a run.

`Runs.walk` leads every program along its part, and `Runs.event` says of each step in a run that its
program was there to ask, that it did not have to wait, and what the store answered.
-/

namespace Countersign

open Program

variable {ι : Type} {β : ι → Type}

/-! ## Steps -/

/-- One step of a program: its question, the answer, and what the clock shows. -/
structure Event (ι : Type) where
  who : ι
  act : Act
  answer : act.Answer
  time : Instant

/-- The answers that an operation can get in a store at a time. -/
def Act.Admits (s : Store) (now : Instant) : (a : Act) → a.Answer → Prop
  | .clock, answer => answer = now
  | .look id, answer => answer = ((s.vault id).slot, now)
  | .settle _ _, answer => answer = now
  | .recall id key, answer => answer = ((s.vault id).cache.find? key, now)
  | .document location, answer => answer = s.documents.find? location
  | _, _ => True

/-- The outside of a program that runs alone answers with what is admitted. -/
theorem Act.admits_answer {σ : Type} (o : Outside σ) (s : Store) (w : σ) (a : Act) :
    a.Admits s (o.clock w) (o.answer s w a).1 := by
  cases a <;> trivial

/-- The store behind some steps. -/
def storeAfter (s : Store) (l : List (Event ι)) : Store :=
  l.foldl (fun s e => e.act.onStore s) s

@[simp] theorem storeAfter_nil (s : Store) : storeAfter s ([] : List (Event ι)) = s := rfl

@[simp] theorem storeAfter_cons (s : Store) (e : Event ι) (l : List (Event ι)) :
    storeAfter s (e :: l) = storeAfter (e.act.onStore s) l := rfl

@[simp] theorem storeAfter_append (s : Store) (l₁ l₂ : List (Event ι)) :
    storeAfter s (l₁ ++ l₂) = storeAfter (storeAfter s l₁) l₂ :=
  List.foldl_append

/-- Programs with the store that they share. -/
structure Config (β : ι → Type) where
  store : Store
  programs : (i : ι) → Run (β i)

variable [DecidableEq ι]

/-- One program asks its next question and goes on with the answer. -/
inductive Step : Config β → Event ι → Config β → Prop where
  | mk {c : Config β} {i : ι} {op : Act} {next : op.Answer → Run (β i)} {answer : op.Answer}
      {now : Instant} :
      c.programs i = ask (I := World) op next → op.waits c.store = false →
      op.Admits c.store now answer →
      Step c ⟨i, op, answer, now⟩ ⟨op.onStore c.store, Function.update c.programs i (next answer)⟩

/-- Steps one after the other. -/
inductive Runs : Config β → List (Event ι) → Config β → Prop where
  | stop (c : Config β) : Runs c [] c
  | step {c m d : Config β} {e : Event ι} {l : List (Event ι)} :
      Step c e m → Runs m l d → Runs c (e :: l) d

/-! ## What is left of a run -/

/-- What a program asked, with the answers. -/
def partOf (i : ι) (l : List (Event ι)) : Transcript World :=
  l.filterMap fun e => if e.who = i then some ⟨e.act, e.answer⟩ else none

@[simp] theorem partOf_nil (i : ι) : partOf i [] = [] := rfl

@[simp] theorem partOf_append (i : ι) (l₁ l₂ : List (Event ι)) :
    partOf i (l₁ ++ l₂) = partOf i l₁ ++ partOf i l₂ :=
  List.filterMap_append

@[simp] theorem partOf_cons_self (e : Event ι) (l : List (Event ι)) :
    partOf e.who (e :: l) = ⟨e.act, e.answer⟩ :: partOf e.who l := by
  simp [partOf]

theorem partOf_cons_eq {i : ι} {e : Event ι} (h : e.who = i) (l : List (Event ι)) :
    partOf i (e :: l) = ⟨e.act, e.answer⟩ :: partOf i l := by
  rw [← h, partOf_cons_self]

theorem partOf_cons_ne {i : ι} {e : Event ι} (h : e.who ≠ i) (l : List (Event ι)) :
    partOf i (e :: l) = partOf i l := by
  simp [partOf, h]

theorem partOf_snoc (l : List (Event ι)) (i : ι) (op : Act) (answer : op.Answer) (now : Instant) :
    partOf i (l ++ [⟨i, op, answer, now⟩]) = partOf i l ++ [⟨op, answer⟩] := by
  simp [partOf]

/-- Whatever a program asked, it asked in a step of its own. -/
theorem mem_partOf {i : ι} {l : List (Event ι)} {x : Entry World} (h : x ∈ partOf i l) :
    ∃ l₁ e l₂, l = l₁ ++ e :: l₂ ∧ e.who = i ∧ x = ⟨e.act, e.answer⟩ := by
  rcases List.mem_filterMap.1 h with ⟨e, he, hx⟩
  rcases List.append_of_mem he with ⟨l₁, l₂, hl⟩
  by_cases hi : e.who = i
  · rw [if_pos hi] at hx
    cases hx
    exact ⟨l₁, e, l₂, hl, hi, rfl⟩
  · rw [if_neg hi] at hx
    cases hx

/-- The steps that a part consists of, in order. -/
theorem partOf_eq_append {i : ι} {l : List (Event ι)} {t u : Transcript World}
    (h : partOf i l = t ++ u) : ∃ l₁ l₂, l = l₁ ++ l₂ ∧ partOf i l₁ = t ∧ partOf i l₂ = u := by
  rcases List.filterMap_eq_append_iff.1 h with ⟨l₁, l₂, hl, ht, hu⟩
  exact ⟨l₁, l₂, hl, ht, hu⟩

theorem partOf_eq_cons {i : ι} {l : List (Event ι)} {x : Entry World} {t : Transcript World}
    (h : partOf i l = x :: t) :
    ∃ l₁ e l₂, l = l₁ ++ e :: l₂ ∧ partOf i l₁ = [] ∧ e.who = i ∧ x = ⟨e.act, e.answer⟩ ∧
      partOf i l₂ = t := by
  induction l with
  | nil => cases h
  | cons e l ih =>
      by_cases hi : e.who = i
      · subst hi
        rw [partOf_cons_self] at h
        cases h
        exact ⟨[], e, l, rfl, rfl, rfl, rfl, rfl⟩
      · rw [partOf_cons_ne hi] at h
        rcases ih h with ⟨l₁, e', l₂, rfl, hnil, hwho, hx, ht⟩
        exact ⟨e :: l₁, e', l₂, rfl, by rw [partOf_cons_ne hi, hnil], hwho, hx, ht⟩

/-- The step that an entry in the middle of a part stands for. -/
theorem partOf_eq_append_cons {i : ι} {l : List (Event ι)} {x : Entry World} {t u : Transcript World}
    (h : partOf i l = t ++ x :: u) :
    ∃ l₁ e l₂, l = l₁ ++ e :: l₂ ∧ partOf i l₁ = t ∧ e.who = i ∧ x = ⟨e.act, e.answer⟩ ∧
      partOf i l₂ = u := by
  rcases partOf_eq_append h with ⟨l₀, l₁, rfl, ht, hrest⟩
  rcases partOf_eq_cons hrest with ⟨m, e, l₂, rfl, hm, hwho, hx, hu⟩
  refine ⟨l₀ ++ m, e, l₂, by simp, ?_, hwho, hx, hu⟩
  rw [partOf_append, ht, hm, List.append_nil]

/-! ## Runs -/

namespace Runs

variable {c d : Config β} {l : List (Event ι)}

theorem of_append {l₁ l₂ : List (Event ι)} (h : Runs c (l₁ ++ l₂) d) :
    ∃ m, Runs c l₁ m ∧ Runs m l₂ d := by
  induction l₁ generalizing c with
  | nil => exact ⟨c, .stop c, h⟩
  | cons e l₁ ih =>
      cases h with
      | step hstep hrest =>
          rcases ih hrest with ⟨m, hm, hd⟩
          exact ⟨m, .step hstep hm, hd⟩

/-- A step behind a run makes a run. -/
theorem snoc {d' : Config β} {e : Event ι} (h : Runs c l d) (hstep : Step d e d') :
    Runs c (l ++ [e]) d' := by
  induction h with
  | stop c => exact .step hstep (.stop _)
  | step hfirst _ ih => exact .step hfirst (ih hstep)

/-- A step before a run makes a run. -/
theorem exists_cons {m : Config β} {e : Event ι} (h : Step c e m) (hl : ∃ d, Runs m l d) :
    ∃ d, Runs c (e :: l) d := by
  rcases hl with ⟨d, hd⟩
  exact ⟨d, .step h hd⟩

/-- What holds at the start and is kept by every step holds behind every run. -/
theorem invariant {P : List (Event ι) → Config β → Prop} (h : Runs c l d) (start : P [] c)
    (step : ∀ l m e m', P l m → Step m e m' → P (l ++ [e]) m') : P l d := by
  -- generalized over the steps that come before the run
  suffices hall : ∀ {c l d}, Runs c l d → ∀ l₀, P l₀ c → P (l₀ ++ l) d from hall h [] start
  intro c l d h
  induction h with
  | stop c =>
      intro l₀ h₀
      simpa using h₀
  | @step c m d e l hstep _ ih =>
      intro l₀ h₀
      have h₁ := ih (l₀ ++ [e]) (step l₀ c e m h₀ hstep)
      simpa using h₁

theorem store (h : Runs c l d) : d.store = storeAfter c.store l := by
  refine h.invariant (P := fun l d => d.store = storeAfter c.store l) rfl ?_
  intro l m e m' hm hstep
  cases hstep with
  | mk _ _ _ => simp [hm]

/-- Every program goes along its part of the run. -/
theorem walk (h : Runs c l d) (i : ι) : Walk (c.programs i) (partOf i l) (d.programs i) := by
  refine h.invariant (P := fun l d => Walk (c.programs i) (partOf i l) (d.programs i)) (.here _) ?_
  intro l m e m' hm hstep
  cases hstep with
  | @mk j op next answer now hask _ _ =>
      -- a step of another program leaves this one where it is
      by_cases hj : j = i
      · subst hj
        rw [hask] at hm
        simpa [partOf] using hm.snoc answer
      · simpa [partOf, hj, Function.update_of_ne (Ne.symm hj)] using hm

/-- A step in the middle of a run. -/
theorem event {l₁ l₂ : List (Event ι)} {e : Event ι} (h : Runs c (l₁ ++ e :: l₂) d) :
    (∃ next, Walk (c.programs e.who) (partOf e.who l₁) (ask e.act next)) ∧
      e.act.waits (storeAfter c.store l₁) = false ∧
      e.act.Admits (storeAfter c.store l₁) e.time e.answer := by
  rcases h.of_append with ⟨m, hm, hd⟩
  cases hd with
  | step hstep _ =>
      have hstore := hm.store
      have hwalk := hm.walk e.who
      cases hstep with
      | @mk i op next answer now hask hwaits hadmits =>
          rw [hask] at hwalk
          rw [hstore] at hwaits hadmits
          exact ⟨⟨next, hwalk⟩, hwaits, hadmits⟩

end Runs

/-- Whether nobody has to wait in some steps, and the store answers as it is at each of them. -/
def Admitted (s : Store) : List (Event ι) → Prop
  | [] => True
  | e :: l => e.act.waits s = false ∧ e.act.Admits s e.time e.answer ∧ Admitted (e.act.onStore s) l

/-- Steps that the store admits are a run, if they lead every program along its part. -/
theorem exists_runs {s : Store} {programs : (i : ι) → Run (β i)} {l : List (Event ι)}
    (hadmitted : Admitted s l) (hwalk : ∀ i, ∃ q, Walk (programs i) (partOf i l) q) :
    ∃ d, Runs ⟨s, programs⟩ l d := by
  induction l generalizing s programs with
  | nil => exact ⟨_, .stop _⟩
  | cons e l ih =>
      rcases hadmitted with ⟨hwaits, hadmits, hrest⟩
      rcases hwalk e.who with ⟨q, hi⟩
      rw [partOf_cons_self] at hi
      rcases e with ⟨i, op, answer, now⟩
      dsimp only at hi hwaits hadmits hrest
      cases hprogram : programs i with
      | done a =>
          rw [hprogram] at hi
          rcases walk_done_iff.1 hi with ⟨hnil, _⟩
          cases hnil
      | ask op' next =>
          rw [hprogram] at hi
          rcases walk_ask_iff.1 hi with ⟨hnil, _⟩ | ⟨answer', t, ht, hnext⟩
          · cases hnil
          · cases ht
            refine Runs.exists_cons (.mk hprogram hwaits hadmits) (ih hrest ?_)
            -- the other programs still have the whole of their parts before them
            intro j
            by_cases hj : j = i
            · subst hj
              exact ⟨q, by simpa using hnext⟩
            · rcases hwalk j with ⟨q', hq'⟩
              rw [partOf_cons_ne (Ne.symm hj)] at hq'
              exact ⟨q', by simpa [Function.update_of_ne hj] using hq'⟩

/-! ## Programs that run alone -/

/-- The steps of a program that runs alone. -/
def steps (u : Transcript World) : List (Event Unit) := u.map fun x => ⟨(), x.1, x.2, default⟩

@[simp] theorem steps_cons (x : Entry World) (u : Transcript World) :
    steps (x :: u) = ⟨(), x.1, x.2, default⟩ :: steps u := rfl

theorem steps_append (u v : Transcript World) : steps (u ++ v) = steps u ++ steps v :=
  List.map_append

/-- What holds of the questions holds of the steps. -/
theorem forall_steps {P : Act → Prop} {u : Transcript World} (h : ∀ x ∈ u, P x.1) :
    ∀ y ∈ steps u, P y.act := by
  intro y hy
  rcases List.mem_map.1 hy with ⟨x, hx, rfl⟩
  exact h x hx

theorem forall_steps_append {P : Act → Prop} {u v : Transcript World} (hu : ∀ x ∈ u, P x.1)
    (hv : ∀ x ∈ v, P x.1) : ∀ y ∈ steps (u ++ v), P y.act :=
  forall_steps (List.forall_mem_append.2 ⟨hu, hv⟩)

/-- A program that runs alone leaves the store behind its own steps. -/
theorem alone_store {σ α : Type} (o : Outside σ) (p : Run α) (s : Store) (w : σ) :
    (p.alone o (s, w)).2.1 = storeAfter s (steps (p.transcript o.step (s, w))) := by
  unfold Run.alone
  induction p generalizing s w with
  | done a => rfl
  | ask op next ih => exact ih _ _ _

end Countersign
