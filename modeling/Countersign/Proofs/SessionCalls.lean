import Countersign.Proofs.Errands
import Countersign.Proofs.Vouching

/-!
# Calls on one session

A session is asked for its credential, negotiates others, looks into its cache and is reset, by any
number of programs at once.  Credentials come into its vault at two places only: a refresh ends, or an
authenticator does.

* `Act.fills id op` — whether an operation can put a credential into a vault;
* `Session.Uses s p` — `p` gets at the vault only through the operations of the session;
* `Session.Fills s t op` — a program that has asked `t` puts a credential into the vault;
* `Session.Call`, `Session.Traffic` — calls on a session and their runs;
* `Session.UnderWay` — a call is in the middle of a refresh or of an authenticator.
-/

namespace Countersign

open Program Slot

/-- Whether an operation can put a credential into the vault of a session. -/
def Act.fills (id : SessionId) : Act → Bool
  | .establish i _ _ => i == id
  | .settle i _ => i == id
  | .retain i _ _ => i == id
  | _ => false

namespace Session

variable {s : Session}

/-! ## Programs that use a session -/

/-- Programs that get at the vault of a session through its operations: they ask for its credential,
negotiate, and leave all other filling of the vault alone. -/
inductive Uses (s : Session) : {α : Type} → Run α → Prop where
  | done {α : Type} (a : α) : Uses s (.done a)
  | ask {α : Type} {op : Act} {next : op.Answer → Run α} :
      op.fills s.number = false → (∀ answer, Uses s (next answer)) →
      Uses s (.ask (I := World) op next)
  | credential (name : String) : Uses s (s.credential name)
  | authenticate (a : Authenticator) (r : Request) (names : Names) :
      Uses s (a.acquire s r names) → Uses s (s.authenticate a r names)
  | bind {α β : Type} {p : Run α} {f : α → Run β} :
      Uses s p → (∀ a, Uses s (f a)) → Uses s (p.bind f)

/-- A program puts a credential into the vault: at the end of a refresh, of which it has recorded all
steps, or behind an authenticator. -/
inductive Fills (s : Session) : Transcript World → Act → Prop where
  | refreshed (before : Transcript World) {x y : Look} {u : Transcript World} {own : Slot.Outcome} :
      y.1.generation = x.1.generation → Walk s.refresh u (.done own) →
      Fills s (before ++ (opening s.number x y ++ u)) (.settle s.number (outcomeText own))
  | acquired (t : Transcript World) (key : String) (c : Credential) :
      Fills s t (.retain s.number key c)

theorem Fills.prepend {t : Transcript World} {op : Act} (h : Fills s t op)
    (before : Transcript World) : Fills s (before ++ t) op := by
  cases h with
  | refreshed between hgen hend =>
      rw [← List.append_assoc]
      exact .refreshed (before ++ between) hgen hend
  | acquired t key c => exact .acquired (before ++ t) key c

/-- The operation of a session that fills its vault with a long-lived credential. -/
theorem fills_of_credential {name : String} {t : Transcript World} {op : Act}
    {next : op.Answer → Run Slot.Outcome} (h : Walk (s.credential name) t (.ask (I := World) op next))
    (hfills : op.fills s.number = true) :
    ∃ x y u own, t = opening s.number x y ++ u ∧ y.1.generation = x.1.generation ∧
      Walk s.refresh u (.done own) ∧ op = .settle s.number (outcomeText own) := by
  have hmodest : op.Modest := ((s.credential_only name).walk h).2.1
  cases op with
  | settle i outcome =>
      rcases settle_of_walk h with ⟨rfl, x, y, u, own, rfl, hgen, hend, rfl⟩
      exact ⟨x, y, u, own, rfl, hgen, hend, rfl⟩
  | establish i settings c => exact hmodest.1.elim
  | retain i key c => exact hmodest.1.elim
  | _ => cases hfills

/-- A session that returns its credential was shown it at a look at the slot, or has refreshed it. -/
theorem returned_of_walk {name : String} {t : Transcript World} {c : Credential}
    (h : Walk (s.credential name) t (.done (.ok (some c)))) :
    (∃ t₁ x t₂, t = t₁ ++ ⟨.look s.number, x⟩ :: t₂ ∧ x.1.credential = some c) ∨
      ∃ x y u t₂ now,
        t = opening s.number x y ++ (u ++ ⟨.settle s.number (.ok (some c)), now⟩ :: t₂) ∧
          Walk s.refresh u (.done (.ok (some c))) := by
  unfold Session.credential at h
  cases hidentity : s.identity with
  | anonymous =>
      rw [hidentity] at h
      rcases walk_done_iff.1 h with ⟨_, hq⟩
      cases hq
  | openId settings renewable =>
      rw [hidentity] at h
      dsimp only at h
      split at h
      · exact Slot.returned_of_walk h
      · rcases walk_done_iff.1 h with ⟨_, hq⟩
        cases hq

/-- A session stores the credential that an authenticator has returned. -/
theorem retained_of_walk {a : Authenticator} {r : Request} {names : Names} {t : Transcript World}
    {c : Credential} (h : Walk (s.authenticate a r names) t (.done (.ok (some c)))) :
    ∃ u, t = u ++ [⟨.retain s.number (CredentialCache.key r.uri) c, ()⟩] := by
  cases authenticating_of_walk h with
  | stored _ => exact ⟨_, rfl⟩

/-- Programs that use a session fill its vault at the end of a refresh or of an authenticator only. -/
theorem Uses.fills {α : Type} {p : Run α} (huses : Uses s p) :
    ∀ {t : Transcript World} {op : Act} {next : op.Answer → Run α},
      Walk p t (.ask (I := World) op next) → op.fills s.number = true → Fills s t op := by
  induction huses with
  | done a =>
      intro t op next h _
      rcases walk_done_iff.1 h with ⟨_, hq⟩
      cases hq
  | @ask _ op' next' hspares _ ih =>
      intro t op next h hfills
      rcases walk_ask_iff.1 h with ⟨_, hq⟩ | ⟨answer, t', rfl, hrest⟩
      · cases hq
        rw [hspares] at hfills
        cases hfills
      · exact (ih answer hrest hfills).prepend [⟨op', answer⟩]
  | credential name =>
      intro t op next h hfills
      rcases fills_of_credential h hfills with ⟨x, y, u, own, rfl, hgen, hend, rfl⟩
      exact .refreshed [] hgen hend
  | authenticate a r names _ ih =>
      intro t op next h hfills
      -- the authenticator is at work, or its credential is put away
      cases authenticating_of_walk h with
      | working hwork => exact ih hwork hfills
      | granted _ => exact .acquired _ _ _
  | bind _ _ ihp ihf =>
      intro t op next h hfills
      rcases h.of_bind_ask with ⟨rest, hwork⟩ | ⟨a, t₁, t₂, rfl, _, hrest⟩
      · exact ihp hwork hfills
      · exact (ihf a hrest hfills).prepend t₁

/-! ## Calls and their runs -/

/-- A call on a session. -/
inductive Call where
  | credential (name : String)
  | authenticate (a : Authenticator) (r : Request) (names : Names)
  | cached (r : Request)
  | reset

/-- What a call ends in. -/
abbrev Call.Result : Call → Type
  | credential _ => Slot.Outcome
  | authenticate _ _ _ => Slot.Outcome
  | cached _ => Option Credential
  | reset => Unit

/-- The program of a call. -/
def Call.program (s : Session) : (c : Call) → Run c.Result
  | credential name => s.credential name
  | authenticate a r names => s.authenticate a r names
  | cached r => s.cached r
  | reset => s.reset

/-- Whether a call has started a refresh or an authenticator and has not put its outcome away. -/
inductive UnderWay (s : Session) : Call → Transcript World → Prop where
  | refresh {name : String} {x y : Look} {u : Transcript World} {q : Run Slot.Outcome} :
      y.1.generation = x.1.generation → Walk s.refresh u q →
      UnderWay s (.credential name) (opening s.number x y ++ u)
  | authenticator {a : Authenticator} {r : Request} {names : Names} {e : Entry World}
      {u : Transcript World} {q : Run (Except AuthError Credential)} :
      Walk (a.acquire s r names) (e :: u) q → UnderWay s (.authenticate a r names) (e :: u)

/-- How a call fills the vault. -/
inductive Call.Puts (s : Session) : Call → Transcript World → Act → Prop where
  | refreshed {name : String} {x y : Look} {u : Transcript World} {own : Slot.Outcome} :
      y.1.generation = x.1.generation → Walk s.refresh u (.done own) →
      Puts s (.credential name) (opening s.number x y ++ u) (.settle s.number (outcomeText own))
  | acquired {a : Authenticator} {r : Request} {names : Names} {t : Transcript World} {op : Act}
      {q : Run (Except AuthError Credential)} :
      Walk (a.acquire s r names) t q → Fills s t op → Puts s (.authenticate a r names) t op

theorem Call.Puts.ne_establish {c : Call} {t : Transcript World} {op : Act} (h : Puts s c t op)
    (i : SessionId) (settings : CacheSettings) (held : Option Credential) :
    op ≠ .establish i settings held := by
  rintro rfl
  rcases h with _ | ⟨_, hfill⟩
  cases hfill

theorem Call.puts_of_walk {c : Call} {t : Transcript World} {op : Act}
    {next : op.Answer → Run c.Result}
    (huses : ∀ a r names, c = .authenticate a r names → Uses s (a.acquire s r names))
    (h : Walk (c.program s) t (.ask (I := World) op next)) (hfills : op.fills s.number = true) :
    Puts s c t op := by
  cases c with
  | credential name =>
      rcases fills_of_credential h hfills with ⟨x, y, u, own, rfl, hgen, hend, rfl⟩
      exact .refreshed hgen hend
  | authenticate a r names =>
      have hfill : Fills s t op := (Uses.authenticate a r names (huses a r names rfl)).fills h hfills
      cases authenticating_of_walk h with
      | working hwork => exact .acquired hwork hfill
      | granted hend => exact .acquired hend hfill
  | cached r =>
      -- a look into the cache drops at most what it has found
      rcases cached_of_walk_ask h with ⟨_, rfl⟩ | ⟨_, _, _, _, rfl⟩
      · cases hfills
      · cases hfills
  | reset =>
      rcases Errand.reset_of_walk h with ⟨rfl, _⟩ | ⟨rfl, _⟩
      · cases hfills
      · cases hfills

variable {ι : Type} [DecidableEq ι]

/-- A run of calls on one session, with authenticators that use the session as they may. -/
structure Traffic (s : Session) (calls : ι → Call) (st : Store) (l : List (Event ι)) : Prop where
  runs : ∃ d, Runs ⟨st, fun i => (calls i).program s⟩ l d
  uses : ∀ i a r names, calls i = .authenticate a r names → Uses s (a.acquire s r names)

namespace Traffic

variable {calls : ι → Call} {st : Store} {l l₁ l₂ : List (Event ι)} {e : Event ι}

theorem of_append (h : Traffic s calls st (l₁ ++ l₂)) : Traffic s calls st l₁ := by
  rcases h.runs with ⟨d, hruns⟩
  rcases hruns.of_append with ⟨m, hm, _⟩
  exact ⟨⟨m, hm⟩, h.uses⟩

theorem puts (h : Traffic s calls st (l₁ ++ e :: l₂)) (hfills : e.act.fills s.number = true) :
    Call.Puts s (calls e.who) (partOf e.who l₁) e.act := by
  rcases h.runs with ⟨d, hruns⟩
  rcases hruns.event with ⟨⟨next, hwalk⟩, _⟩
  exact Call.puts_of_walk (h.uses e.who) hwalk hfills

theorem admits (h : Traffic s calls st (l₁ ++ e :: l₂)) :
    e.act.Admits (storeAfter st l₁) e.time e.answer := by
  rcases h.runs with ⟨d, hruns⟩
  exact hruns.event.2.2

/-- No call sets up its session anew. -/
theorem establishes_eq_false (h : Traffic s calls st (l₁ ++ e :: l₂)) :
    establishes s.number e.act = false := by
  rw [Bool.eq_false_iff]
  intro hnew
  cases hact : e.act with
  | establish i settings held =>
      rw [hact] at hnew
      have hfills : e.act.fills s.number = true := by
        rw [hact]
        exact hnew
      exact (h.puts hfills).ne_establish i settings held hact
  | _ =>
      rw [hact] at hnew
      cases hnew

end Traffic
end Session
end Countersign
