import Countersign.Run.World

/-!
# Programs side by side

Several programs share the store on one thread.  Each goes on until it pauses, until it has to
wait for a lock, or to its end; then the next one that is ready goes on.  A lock that is given
back passes to the program that has waited for it longest.

* `Task` — a program with its place among the others;
* `Run.together` — the results of programs that start in the order of a list.
-/

namespace Countersign

/-- A program and the number of its result. -/
structure Task (α : Type) where
  number : Nat
  rest : Run α

/-- Where a program stopped. -/
inductive Stop (α : Type) where
  | ended (a : α)
  | paused (rest : Run α)
  | blocked (session : SessionId) (rest : Run α)

/-- Goes on until the program stops; `freed` collects the locks that it gave back. A lock that
others wait for stays locked, because it passes to one of them. -/
def Run.advance {σ α : Type} (o : Outside σ) (wanted : SessionId → Bool) :
    Run α → List SessionId → Store × σ → Stop α × List SessionId × (Store × σ)
  | .done a, freed, sw => (.ended a, freed, sw)
  | .ask .pause next, freed, sw => (.paused (next ()), freed, sw)
  | .ask (.acquire id) next, freed, sw =>
    -- a held lock stops the program; it is handed over when the holder gives it back
    if (sw.1.vault id).locked then (.blocked id (next ()), freed, sw)
    else
      let r := o.step (.acquire id) sw
      Run.advance o wanted (next r.1) freed r.2
  | .ask (.release id) next, freed, sw =>
    -- the lock of a waiting program is never free in between, so nobody can overtake it
    if wanted id && !freed.contains id then Run.advance o wanted (next ()) (freed ++ [id]) sw
    else
      let r := o.step (.release id) sw
      Run.advance o wanted (next r.1) freed r.2
  | .ask op next, freed, sw =>
    let r := o.step op sw
    Run.advance o wanted (next r.1) freed r.2

/-- The tasks that are ready, those that wait for a lock, and the results so far. -/
structure Crowd (α : Type) where
  ready : List (Task α)
  waiting : List (SessionId × Task α) := []
  results : List (Nat × α) := []

/-- Passes a lock to the task that has waited for it longest. -/
def Crowd.wake {α : Type} (c : Crowd α) (id : SessionId) : Crowd α :=
  match c.waiting.find? fun w => w.1 == id with
  | none => c
  | some w =>
    { c with
      ready := c.ready ++ [w.2]
      waiting := c.waiting.eraseP fun v => v.1 == id }

/-- Lets the tasks go on in turn until none is ready. -/
def Crowd.settle {σ α : Type} (o : Outside σ) : Nat → Crowd α → Store × σ → Crowd α × (Store × σ)
  | 0, c, sw => (c, sw)
  | fuel + 1, c, sw =>
    match c.ready with
    | [] => (c, sw)
    | t :: ready =>
      let wanted (id : SessionId) : Bool := c.waiting.any fun w => w.1 == id
      let (stop, freed, sw) := Run.advance o wanted t.rest [] sw
      -- what has paused queues up again; what is blocked waits until `wake` names it
      let c := { c with ready }
      let c := match stop with
        | .ended a => { c with results := c.results ++ [(t.number, a)] }
        | .paused rest => { c with ready := c.ready ++ [⟨t.number, rest⟩] }
        | .blocked id rest => { c with waiting := c.waiting ++ [(id, ⟨t.number, rest⟩)] }
      Crowd.settle o fuel (freed.foldl Crowd.wake c) sw

/-- The results of programs that start in the order of the list, each with its number, and the
store and the outside at the end. `turns` bounds how often a program goes on. -/
def Run.together {σ α : Type} (o : Outside σ) (turns : Nat) (programs : List (Run α))
    (sw : Store × σ) : List (Nat × α) × (Store × σ) :=
  let tasks := programs.zipIdx.map fun p => (⟨p.2, p.1⟩ : Task α)
  let (c, sw) := Crowd.settle o turns { ready := tasks } sw
  (c.results, sw)

end Countersign
