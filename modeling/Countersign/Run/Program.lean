/-!
# Programs

What the client does between two answers of the world is pure; what it asks the world for is a
value.  A program is the tree of its questions: each question carries an operation, and one
subtree per possible answer.  Runs, schedules and interleavings are different ways to walk down
the same tree, so what is proved of the tree holds for all of them.

* `Interface` — operations with the type of their answers;
* `Program` — the trees;
* `Program.run` — the walk in which a state answers every question;
* `Program.runIn` — the walk in which an action answers every question;
* `Program.interpret` — each question answered by a program over another interface.
-/

namespace Countersign

/-- Operations, and what each is answered with. -/
structure Interface where
  Op : Type
  Answer : Op → Type

/-- A program that asks operations of an interface and ends in a value. -/
inductive Program (I : Interface) (α : Type) : Type where
  | done (a : α)
  | ask (op : I.Op) (next : I.Answer op → Program I α)

namespace Program

variable {I J : Interface} {α β γ : Type}

/-- Goes on with another program where the first ends. -/
def bind : Program I α → (α → Program I β) → Program I β
  | done a, f => f a
  | ask op next, f => ask op fun answer => (next answer).bind f

/-- Changes the value in which a program ends. -/
def map (f : α → β) (p : Program I α) : Program I β := p.bind fun a => done (f a)

instance : Monad (Program I) where
  pure := done
  bind := bind

def perform (op : I.Op) : Program I (I.Answer op) := ask op done

/-- Answers every question from a state. -/
def run {σ : Type} (answer : (op : I.Op) → σ → I.Answer op × σ) : Program I α → σ → α × σ
  | done a, s => (a, s)
  | ask op next, s => (next (answer op s).1).run answer (answer op s).2

/-- Answers every question by a program over another interface. -/
def interpret (answer : (op : I.Op) → Program J (I.Answer op)) : Program I α → Program J α
  | done a => done a
  | ask op next => (answer op).bind fun a => (next a).interpret answer

/-- Answers every question by an action. -/
def runIn {m : Type → Type} [Monad m] (answer : (op : I.Op) → m (I.Answer op)) : Program I α → m α
  | done a => pure a
  | ask op next => do (next (← answer op)).runIn answer

/-- The questions of a run, in order. -/
def trace {σ : Type} (answer : (op : I.Op) → σ → I.Answer op × σ) : Program I α → σ → List I.Op
  | done _, _ => []
  | ask op next, s => op :: (next (answer op s).1).trace answer (answer op s).2

@[simp] theorem pure_eq_done (a : α) : (pure a : Program I α) = done a := rfl

@[simp] theorem bind_eq_bind (p : Program I α) (f : α → Program I β) : (p >>= f) = p.bind f := rfl

@[simp] theorem done_bind (a : α) (f : α → Program I β) : (done a).bind f = f a := rfl

@[simp] theorem ask_bind (op : I.Op) (next : I.Answer op → Program I α) (f : α → Program I β) :
    (ask op next).bind f = ask op fun answer => (next answer).bind f := rfl

theorem bind_done (p : Program I α) : p.bind done = p := by
  induction p with
  | done a => rfl
  | ask op next ih => simp [bind, ih]

theorem bind_assoc (p : Program I α) (f : α → Program I β) (g : β → Program I γ) :
    (p.bind f).bind g = p.bind fun a => (f a).bind g := by
  induction p with
  | done a => rfl
  | ask op next ih => simp [bind, ih]

theorem run_bind {σ : Type} (answer : (op : I.Op) → σ → I.Answer op × σ) (p : Program I α)
    (f : α → Program I β) (s : σ) :
    (p.bind f).run answer s = (f (p.run answer s).1).run answer (p.run answer s).2 := by
  induction p generalizing s with
  | done a => rfl
  | ask op next ih => simp [bind, run, ih]

end Program
end Countersign
