import Countersign.Run.Program

/-!
# Walks — programs along recorded answers

`Program.run` follows one environment.  A statement about every environment, also one in which other
programs act between two questions, is a statement about the walks down the tree.  This file
defines:

* `Program.Walk p t q` — answered as `t` records, `p` goes on as `q`;
* `Program.transcript` — the record of a run;
* `Program.Served f t u` — the questions in `t`, answered by the programs of `f`, ask `u`;
* `Program.Only P p` — `p` asks nothing but questions with the property `P`.

A walk of `p.bind f` splits where `p` ends, and a walk of `p.interpret f` splits into the walks
that answer the questions of `p`.
-/

namespace Countersign

/-- A question with its answer. -/
abbrev Entry (I : Interface) : Type := (op : I.Op) × I.Answer op

/-- Questions with their answers, in order. -/
abbrev Transcript (I : Interface) : Type := List (Entry I)

namespace Program

variable {I J : Interface} {α β : Type}

/-! ## Walks -/

/-- Answered as the transcript records, the first program goes on as the second. -/
inductive Walk : Program I α → Transcript I → Program I α → Prop where
  | here (p : Program I α) : Walk p [] p
  | answered {op : I.Op} {next : I.Answer op → Program I α} {answer : I.Answer op}
      {t : Transcript I} {q : Program I α} :
      Walk (next answer) t q → Walk (ask op next) (⟨op, answer⟩ :: t) q

theorem walk_nil_iff {p q : Program I α} : Walk p [] q ↔ q = p := by
  constructor
  · intro h
    cases h
    rfl
  · rintro rfl
    exact .here _

theorem walk_done_iff {a : α} {t : Transcript I} {q : Program I α} :
    Walk (done a) t q ↔ t = [] ∧ q = done a := by
  constructor
  · intro h
    cases h
    exact ⟨rfl, rfl⟩
  · rintro ⟨rfl, rfl⟩
    exact .here _

theorem walk_ask_iff {op : I.Op} {next : I.Answer op → Program I α} {t : Transcript I}
    {q : Program I α} :
    Walk (ask op next) t q ↔
      (t = [] ∧ q = ask op next) ∨
        ∃ answer t', t = ⟨op, answer⟩ :: t' ∧ Walk (next answer) t' q := by
  constructor
  · intro h
    cases h with
    | here => exact .inl ⟨rfl, rfl⟩
    | answered h => exact .inr ⟨_, _, rfl, h⟩
  · rintro (⟨rfl, rfl⟩ | ⟨answer, t', rfl, h⟩)
    · exact .here _
    · exact .answered h

theorem walk_perform (op : I.Op) (answer : I.Answer op) :
    Walk (perform op) [⟨op, answer⟩] (done answer) :=
  .answered (.here _)

namespace Walk

theorem append {p m q : Program I α} {t u : Transcript I} (h : Walk p t m) (h' : Walk m u q) :
    Walk p (t ++ u) q := by
  induction h with
  | here => exact h'
  | answered _ ih => exact .answered (ih h')

theorem of_append {p q : Program I α} {t u : Transcript I} (h : Walk p (t ++ u) q) :
    ∃ m, Walk p t m ∧ Walk m u q := by
  induction t generalizing p with
  | nil => exact ⟨p, .here p, h⟩
  | cons e t ih =>
      cases h with
      | answered h =>
          rcases ih h with ⟨m, hm, hq⟩
          exact ⟨m, .answered hm, hq⟩

/-- One more answer. -/
theorem snoc {p : Program I α} {t : Transcript I} {op : I.Op} {next : I.Answer op → Program I α}
    (h : Walk p t (ask op next)) (answer : I.Answer op) :
    Walk p (t ++ [⟨op, answer⟩]) (next answer) :=
  h.append (.answered (.here _))

/-- The answers decide where a walk leads. -/
theorem unique {p q q' : Program I α} {t : Transcript I} (h : Walk p t q) (h' : Walk p t q') :
    q = q' := by
  induction h with
  | here => exact (walk_nil_iff.1 h').symm
  | answered _ ih =>
      cases h' with
      | answered h' => exact ih h'

/-- What holds at the start and is kept by every answer holds along every walk. -/
theorem invariant {P : Transcript I → Program I α → Prop} {p q : Program I α} {t : Transcript I}
    (h : Walk p t q) (start : P [] p)
    (step : ∀ t op (next : I.Answer op → Program I α) answer,
      P t (ask op next) → P (t ++ [⟨op, answer⟩]) (next answer)) : P t q := by
  suffices hall : ∀ {p t q}, Walk p t q → ∀ t₀, P t₀ p → P (t₀ ++ t) q from
    hall h [] start
  intro p t q h
  induction h with
  | here p =>
      intro t₀ h₀
      simpa using h₀
  | @answered op next answer t q _ ih =>
      intro t₀ h₀
      have h₁ := ih (t₀ ++ [⟨op, answer⟩]) (step t₀ op next answer h₀)
      simpa using h₁

end Walk

/-! ## Composed programs -/

theorem Walk.bind {p q : Program I α} {t : Transcript I} (f : α → Program I β) (h : Walk p t q) :
    Walk (p.bind f) t (q.bind f) := by
  induction h with
  | here p => exact .here _
  | answered _ ih => exact .answered ih

/-- A walk of a composed program is still in its first part, or has left it with a value. -/
theorem Walk.of_bind {p : Program I α} {f : α → Program I β} {t : Transcript I}
    {q : Program I β} (h : Walk (p.bind f) t q) :
    (∃ p', Walk p t p' ∧ q = p'.bind f) ∨
      ∃ a t₁ t₂, t = t₁ ++ t₂ ∧ Walk p t₁ (done a) ∧ Walk (f a) t₂ q := by
  induction p generalizing t with
  | done a => exact .inr ⟨a, [], t, rfl, .here _, h⟩
  | ask op next ih =>
      rcases walk_ask_iff.1 h with ⟨rfl, rfl⟩ | ⟨answer, t', rfl, hrest⟩
      · exact .inl ⟨_, .here _, rfl⟩
      · rcases ih answer hrest with ⟨p', hp, rfl⟩ | ⟨a, t₁, t₂, rfl, hp, hf⟩
        · exact .inl ⟨p', .answered hp, rfl⟩
        · exact .inr ⟨a, ⟨op, answer⟩ :: t₁, t₂, rfl, .answered hp, hf⟩

/-- A composed program waits for an answer to its first part, or the first part is done. -/
theorem Walk.of_bind_or {p : Program I α} {f : α → Program I β} {t : Transcript I}
    {q : Program I β} (h : Walk (p.bind f) t q) :
    (∃ op rest, Walk p t (ask op rest) ∧ q = ask op fun answer => (rest answer).bind f) ∨
      ∃ a t₁ t₂, t = t₁ ++ t₂ ∧ Walk p t₁ (done a) ∧ Walk (f a) t₂ q := by
  rcases h.of_bind with ⟨p', hp, hq⟩ | hsplit
  · cases p' with
    | done a => exact .inr ⟨a, t, [], by simp, hp, walk_nil_iff.2 hq⟩
    | ask op rest => exact .inl ⟨op, rest, hp, hq⟩
  · exact .inr hsplit

theorem Walk.of_bind_done {p : Program I α} {f : α → Program I β} {t : Transcript I} {b : β}
    (h : Walk (p.bind f) t (done b)) :
    ∃ a t₁ t₂, t = t₁ ++ t₂ ∧ Walk p t₁ (done a) ∧ Walk (f a) t₂ (done b) := by
  rcases h.of_bind_or with ⟨op, rest, _, hq⟩ | hsplit
  · cases hq
  · exact hsplit

/-- A question of a composed program belongs to one of its parts. -/
theorem Walk.of_bind_ask {p : Program I α} {f : α → Program I β} {t : Transcript I} {op : I.Op}
    {next : I.Answer op → Program I β} (h : Walk (p.bind f) t (ask op next)) :
    (∃ rest, Walk p t (ask op rest)) ∨
      ∃ a t₁ t₂, t = t₁ ++ t₂ ∧ Walk p t₁ (done a) ∧ Walk (f a) t₂ (ask op next) := by
  rcases h.of_bind_or with ⟨op', rest, hp, hq⟩ | hsplit
  · cases hq
    exact .inl ⟨rest, hp⟩
  · exact .inr hsplit

/-! ## Runs -/

/-- The questions of a run with their answers, in order. -/
def transcript {σ : Type} (answer : (op : I.Op) → σ → I.Answer op × σ) :
    Program I α → σ → Transcript I
  | done _, _ => []
  | ask op next, s =>
    ⟨op, (answer op s).1⟩ :: (next (answer op s).1).transcript answer (answer op s).2

theorem transcript_bind {σ : Type} (answer : (op : I.Op) → σ → I.Answer op × σ) (p : Program I α)
    (f : α → Program I β) (s : σ) :
    (p.bind f).transcript answer s =
      p.transcript answer s ++ (f (p.run answer s).1).transcript answer (p.run answer s).2 := by
  induction p generalizing s with
  | done a => rfl
  | ask op next ih => simp [transcript, run, ih]

/-- Every run is a walk to its value. -/
theorem walk_transcript {σ : Type} (answer : (op : I.Op) → σ → I.Answer op × σ)
    (p : Program I α) (s : σ) : Walk p (p.transcript answer s) (done (p.run answer s).1) := by
  induction p generalizing s with
  | done a => exact .here _
  | ask op next ih => exact .answered (ih _ _)

/-- A run over another interface is a run in which whole programs answer the questions. -/
theorem run_interpret {σ : Type} (f : (op : I.Op) → Program J (I.Answer op))
    (answer : (op : J.Op) → σ → J.Answer op × σ) (p : Program I α) (s : σ) :
    (p.interpret f).run answer s = p.run (fun op => (f op).run answer) s := by
  induction p generalizing s with
  | done a => rfl
  | ask op next ih =>
      rw [interpret, run_bind, ih]
      rfl

/-- Answering the questions of composed programs composes the answers. -/
theorem interpret_bind (f : (op : I.Op) → Program J (I.Answer op)) (p : Program I α)
    (g : α → Program I β) :
    (p.bind g).interpret f = (p.interpret f).bind fun a => (g a).interpret f := by
  induction p with
  | done a => rfl
  | ask op next ih => simp only [ask_bind, interpret, bind_assoc, ih]

/-! ## Programs that answer questions -/

/-- The questions of the first transcript, answered by programs, ask what the second one records. -/
inductive Served (f : (op : I.Op) → Program J (I.Answer op)) :
    Transcript I → Transcript J → Prop where
  | none : Served f [] []
  | one {op : I.Op} {a : I.Answer op} {u : Transcript J} {t : Transcript I} {u' : Transcript J} :
      Walk (f op) u (done a) → Served f t u' → Served f (⟨op, a⟩ :: t) (u ++ u')

theorem Served.of_cons {f : (op : I.Op) → Program J (I.Answer op)} {op : I.Op} {a : I.Answer op}
    {t : Transcript I} {w : Transcript J} (h : Served f (⟨op, a⟩ :: t) w) :
    ∃ u u', w = u ++ u' ∧ Walk (f op) u (done a) ∧ Served f t u' := by
  cases h with
  | one hu hu' => exact ⟨_, _, rfl, hu, hu'⟩

theorem Served.cons {f : (op : I.Op) → Program J (I.Answer op)} {op : I.Op} {a : I.Answer op}
    {t : Transcript I} {u u' w : Transcript J} (hu : Walk (f op) u (done a)) (h : Served f t u')
    (hw : u ++ u' = w) : Served f (⟨op, a⟩ :: t) w := by
  subst hw
  exact .one hu h

theorem Served.append {f : (op : I.Op) → Program J (I.Answer op)} {t t' : Transcript I}
    {u u' : Transcript J} (h : Served f t u) (h' : Served f t' u') : Served f (t ++ t') (u ++ u') := by
  induction h with
  | none => exact h'
  | one hu _ ih => exact .cons hu ih (List.append_assoc _ _ _).symm

theorem Served.of_append {f : (op : I.Op) → Program J (I.Answer op)} {t t' : Transcript I}
    {w : Transcript J} (h : Served f (t ++ t') w) :
    ∃ u u', w = u ++ u' ∧ Served f t u ∧ Served f t' u' := by
  induction t generalizing w with
  | nil => exact ⟨[], w, rfl, .none, h⟩
  | cons e t ih =>
      rcases h.of_cons with ⟨v, v', rfl, hv, hrest⟩
      rcases ih hrest with ⟨u, u', rfl, hu, hu'⟩
      exact ⟨v ++ u, u', by simp, .one hv hu, hu'⟩

theorem served_transcript {σ : Type} (f : (op : I.Op) → Program J (I.Answer op))
    (answer : (op : J.Op) → σ → J.Answer op × σ) (p : Program I α) (s : σ) :
    Served f (p.transcript (fun op => (f op).run answer) s) ((p.interpret f).transcript answer s) := by
  induction p generalizing s with
  | done a => exact .none
  | ask op next ih =>
      rw [interpret, transcript_bind]
      exact .one (walk_transcript answer (f op) s) (ih _ _)

theorem Walk.of_interpret_done {f : (op : I.Op) → Program J (I.Answer op)} {p : Program I α}
    {u : Transcript J} {a : α} (h : Walk (p.interpret f) u (done a)) :
    ∃ t, Walk p t (done a) ∧ Served f t u := by
  induction p generalizing u with
  | done b =>
      rcases walk_done_iff.1 h with ⟨rfl, hb⟩
      cases hb
      exact ⟨[], .here _, .none⟩
  | ask op next ih =>
      rcases h.of_bind_done with ⟨b, u₁, u₂, rfl, hf, hrest⟩
      rcases ih b hrest with ⟨t, ht, hserved⟩
      exact ⟨⟨op, b⟩ :: t, .answered ht, .one hf hserved⟩

/-- Programs that answer the questions of a walk lead the interpreted program along. -/
theorem Walk.interpret {f : (op : I.Op) → Program J (I.Answer op)} {p q : Program I α}
    {t : Transcript I} {u : Transcript J} (h : Walk p t q) (hserved : Served f t u) :
    Walk (p.interpret f) u (q.interpret f) := by
  induction h generalizing u with
  | here =>
      cases hserved
      exact .here _
  | answered _ ih =>
      rcases hserved.of_cons with ⟨v, v', rfl, hv, hrest⟩
      exact (hv.bind _).append (ih hrest)

/-- A question of an interpreted program is asked while a question of the program is answered. -/
theorem Walk.of_interpret_ask {f : (op : I.Op) → Program J (I.Answer op)} {p : Program I α}
    {u : Transcript J} {op : J.Op} {next : J.Answer op → Program J α}
    (h : Walk (p.interpret f) u (ask op next)) :
    ∃ t u₁ u₂ q, ∃ after : I.Answer q → Program I α, ∃ rest : J.Answer op → Program J (I.Answer q),
      u = u₁ ++ u₂ ∧ Walk p t (ask q after) ∧ Served f t u₁ ∧ Walk (f q) u₂ (ask op rest) := by
  induction p generalizing u with
  | done b =>
      rcases walk_done_iff.1 h with ⟨-, hb⟩
      cases hb
  | ask q after ih =>
      rcases h.of_bind_ask with ⟨rest, hf⟩ | ⟨b, u₁, u₂, rfl, hf, hrest⟩
      · exact ⟨[], [], u, q, after, rest, rfl, .here _, .none, hf⟩
      · rcases ih b hrest with ⟨t, v₁, v₂, q', after', rest', rfl, ht, hserved, hq⟩
        exact ⟨⟨q, b⟩ :: t, u₁ ++ v₁, v₂, q', after', rest', by simp, .answered ht,
          .one hf hserved, hq⟩

/-! ## Programs of few questions -/

/-- Whether all questions that a program can ask have a property. -/
def Only (P : I.Op → Prop) : Program I α → Prop
  | done _ => True
  | ask op next => P op ∧ ∀ answer, (next answer).Only P

namespace Only

variable {P Q : I.Op → Prop}

theorem bind {p : Program I α} {f : α → Program I β} (hp : p.Only P) (hf : ∀ a, (f a).Only P) :
    (p.bind f).Only P := by
  induction p with
  | done a => exact hf a
  | ask op next ih => exact ⟨hp.1, fun answer => ih answer (hp.2 answer)⟩

/-- Behind the first part only what it ends in matters. -/
theorem bind_of_walk {p : Program I α} {f : α → Program I β} (hp : p.Only P)
    (hf : ∀ t a, Walk p t (done a) → (f a).Only P) : (p.bind f).Only P := by
  induction p with
  | done a => exact hf [] a (.here _)
  | ask op next ih =>
      refine ⟨hp.1, ?_⟩
      intro answer
      exact ih answer (hp.2 answer) fun t a h => hf (⟨op, answer⟩ :: t) a (.answered h)

theorem map {p : Program I α} (f : α → β) (hp : p.Only P) : (p.map f).Only P :=
  hp.bind fun _ => trivial

theorem perform {op : I.Op} (h : P op) : (perform op).Only P :=
  ⟨h, fun _ => trivial⟩

/-- Questions of one kind, answered by programs of few questions. -/
theorem interpret {R : J.Op → Prop} {f : (op : I.Op) → Program J (I.Answer op)}
    {p : Program I α} (hp : p.Only P) (hf : ∀ op, P op → (f op).Only R) :
    (p.interpret f).Only R := by
  induction p with
  | done a => trivial
  | ask op next ih => exact (hf op hp.1).bind fun answer => ih answer (hp.2 answer)

theorem mono {p : Program I α} (hp : p.Only P) (h : ∀ op, P op → Q op) : p.Only Q := by
  induction p with
  | done a => trivial
  | ask op next ih => exact ⟨h op hp.1, fun answer => ih answer (hp.2 answer)⟩

/-- Along a walk only such questions are asked, and only such are left. -/
theorem walk {p q : Program I α} {t : Transcript I} (hp : p.Only P) (h : Walk p t q) :
    (∀ e ∈ t, P e.1) ∧ q.Only P := by
  induction h with
  | here => exact ⟨by simp, hp⟩
  | @answered op next answer t q _ ih =>
      rcases ih (hp.2 answer) with ⟨ht, hq⟩
      exact ⟨by simpa using ⟨hp.1, ht⟩, hq⟩

end Only
end Program
end Countersign
