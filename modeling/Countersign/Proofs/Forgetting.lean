import Countersign.Proofs.SessionCalls

/-!
# Forgetting — what a reset does to the credentials of a session

A reset clears the slot of its session and empties the cache.  It does not reach a refresh or an
authenticator that is under way: that one puts its credential into the vault when it ends, also behind
a reset.  Everything else that is found in the vault afterwards is new:

* `exists_settle_of_slot` — the credential in a slot was written since the slot was empty;
* `Session.Fresh` — a credential whose refresh or authenticator began behind a reset;
* `Session.reset_forgets` — behind a reset a vault shows what is fresh, or what was under way;
* `Session.overtaken_gets` — a refresh that a reset has overtaken brings the old credential back.
-/

namespace Countersign

open Program Slot

/-! ## The history of a slot -/

section

variable {ι : Type} {id : SessionId} {c : Credential}

/-- An operation leaves a credential in a slot if it writes it there, or if it was there before. -/
theorem credential_onStore {op : Act} {s : Store} (hnew : establishes id op = false)
    (h : ((op.onStore s).vault id).slot.credential = some c) :
    op = .settle id (.ok (some c)) ∨ (s.vault id).slot.credential = some c := by
  by_cases hwrite : writes id op = true
  · cases op with
    | settle i outcome =>
        have hi : i = id := by simpa [writes] using hwrite
        subst hi
        cases outcome with
        | error reason => exact .inr (by simpa [Act.onStore, SlotState.settled] using h)
        | ok held =>
            have hheld : held = some c := by simpa [Act.onStore, SlotState.settled] using h
            exact .inl (by rw [hheld])
    | forget i =>
        have hi : i = id := by simpa [writes] using hwrite
        subst hi
        simp [Act.onStore, SlotState.cleared] at h
    | _ => cases hwrite
  · rw [slot_onStore s (Bool.eq_false_iff.2 hwrite) hnew] at h
    exact .inr h

/-- The credential in a slot that was empty has been written by an outcome since. -/
theorem exists_settle_of_slot {s : Store} {l : List (Event ι)}
    (hempty : (s.vault id).slot.credential = none)
    (hnew : ∀ e ∈ l, establishes id e.act = false)
    (h : ((storeAfter s l).vault id).slot.credential = some c) :
    ∃ p x q, l = p ++ x :: q ∧ x.act = .settle id (.ok (some c)) := by
  induction l using List.reverseRecOn with
  | nil =>
      rw [storeAfter_nil, hempty] at h
      cases h
  | append_singleton l e ih =>
      rw [storeAfter_append] at h
      rcases credential_onStore (hnew e (by simp)) h with hact | hbefore
      · exact ⟨l, e, [], rfl, hact⟩
      · rcases ih (fun x hx => hnew x (List.mem_append_left _ hx)) hbefore with ⟨p, x, q, rfl, hact⟩
        exact ⟨p, x, q ++ [e], by simp, hact⟩

end

/-- A look at a slot shows what the store holds. -/
theorem look_of_admits {ι : Type} {id : SessionId} {s : Store} {e : Event ι} {x : Look}
    (hlook : (⟨e.act, e.answer⟩ : Entry World) = ⟨.look id, x⟩)
    (hadmits : e.act.Admits s e.time e.answer) : x.1 = (s.vault id).slot := by
  rcases e with ⟨who, act, answer, time⟩
  cases hlook
  exact congrArg Prod.fst hadmits

/-- Whether a step shows a credential of a session to its program: a look at the slot finds it there,
or a look into the cache. -/
inductive Event.Shows {ι : Type} (id : SessionId) (e : Event ι) (c : Credential) : Prop where
  | slot {x : Look} : (⟨e.act, e.answer⟩ : Entry World) = ⟨.look id, x⟩ →
      x.1.credential = some c → Shows id e c
  | cache {key : String} {now : Instant} :
      (⟨e.act, e.answer⟩ : Entry World) = ⟨.recall id key, (some c, now)⟩ → Shows id e c

namespace Session

/-! ## Where credentials come from -/

/-- Whether a step stores a credential in the vault of a session. -/
def Stores {ι : Type} (s : Session) (x : Event ι) (c : Credential) : Prop :=
  x.act = .settle s.number (.ok (some c)) ∨ ∃ key, x.act = .retain s.number key c

/-- A refresh that stores a credential has returned it. -/
theorem Stores.own_eq {ι : Type} {s : Session} {x : Event ι} {c : Credential} {own : Slot.Outcome}
    (h : Stores s x c) (hact : x.act = .settle s.number (outcomeText own)) : own = .ok (some c) := by
  rcases h with hsettle | ⟨key, hretain⟩
  · rw [hact] at hsettle
    exact mapError_eq_ok.1 (Act.settle.inj hsettle).2
  · rw [hact] at hretain
    cases hretain

variable {ι : Type} [DecidableEq ι] {s : Session} {calls : ι → Call} {st : Store}

/-- Whether the refresh or the authenticator whose credential the step `x` stores began behind the steps
`l₀`, among the steps `m` that lead from there to `x`. -/
inductive Fresh (s : Session) (calls : ι → Call) (l₀ m : List (Event ι)) (x : Event ι)
    (c : Credential) : Prop where
  | refreshed {m₁ m₂ : List (Event ι)} {y : Event ι} :
      m = m₁ ++ y :: m₂ → y.who = x.who → y.act = .look s.number →
      Walk s.refresh (partOf x.who m₂) (.done (.ok (some c))) →
      x.act = .settle s.number (.ok (some c)) → Fresh s calls l₀ m x c
  | acquired {a : Authenticator} {r : Request} {names : Names} {key : String}
      {q : Run (Except AuthError Credential)} :
      calls x.who = .authenticate a r names → partOf x.who l₀ = [] →
      Walk (a.acquire s r names) (partOf x.who m) q → x.act = .retain s.number key c →
      Fresh s calls l₀ m x c

/-- The two steps of a reset. -/
structure Resets (s : Session) (calls : ι → Call) (f w : Event ι) : Prop where
  call : calls f.who = .reset
  who : w.who = f.who
  cleared : f.act = .forget s.number
  emptied : w.act = .wipe s.number

variable {l₀ l₁ l₂ m q : List (Event ι)} {f w x : Event ι} {c : Credential}

/-- The step that a look in the part of a program stands for. -/
theorem exists_look {i : ι} {id : SessionId} {y : Look} {t u : Transcript World}
    (h : partOf i m = t ++ ⟨.look id, y⟩ :: u) :
    ∃ m₁ e m₂, m = m₁ ++ e :: m₂ ∧ e.who = i ∧ e.act = .look id ∧ partOf i m₂ = u := by
  rcases partOf_eq_append_cons h with ⟨m₁, e, m₂, hm, _, hwho, hentry, hu⟩
  exact ⟨m₁, e, m₂, hm, hwho, (congrArg Sigma.fst hentry).symm, hu⟩

/-- A refresh that has started behind `l₀` is fresh when it stores its credential. -/
theorem fresh_of_looked {y : Look} {t u : Transcript World} {own : Slot.Outcome}
    (hpart : partOf x.who m = t ++ ⟨.look s.number, y⟩ :: u) (hend : Walk s.refresh u (.done own))
    (hstores : Stores s x c) (hact : x.act = .settle s.number (outcomeText own)) :
    Fresh s calls l₀ m x c := by
  cases hstores.own_eq hact
  rcases exists_look hpart with ⟨m₁, e, m₂, hm, hwho, hlook, hu⟩
  exact .refreshed hm hwho hlook (by rwa [hu]) hact

/-- A refresh is fresh if the second look of its opening stands among the steps `m`, and had started
before them otherwise. -/
theorem fresh_or_started {y z : Look} {t u : Transcript World} {own : Slot.Outcome}
    (ht : t ++ partOf x.who m = opening s.number y z ++ u) (hend : Walk s.refresh u (.done own))
    (hstores : Stores s x c) (hact : x.act = .settle s.number (outcomeText own)) :
    Fresh s calls l₀ m x c ∨
      ∃ u₁ q, t = opening s.number y z ++ u₁ ∧ Walk s.refresh u₁ q := by
  rcases List.append_eq_append_iff.1 ht with ⟨t₁, hopening, hm⟩ | ⟨t₁, rfl, rfl⟩
  · rcases List.eq_nil_or_concat t₁ with rfl | ⟨t₂, last, rfl⟩
    · exact .inr ⟨[], _, by simpa using hopening.symm, .here _⟩
    · have hlast : last = ⟨.look s.number, z⟩ := by
        have hconcat : [(⟨.look s.number, y⟩ : Entry World), ⟨.acquire s.number, ()⟩] ++
            [⟨.look s.number, z⟩] = (t ++ t₂) ++ [last] := by
          simpa [opening] using hopening
        exact (List.cons.inj (List.append_inj' hconcat rfl).2).1.symm
      have hlooked : partOf x.who m = t₂ ++ ⟨.look s.number, z⟩ :: u := by
        rw [hm, hlast]
        simp
      exact .inl (fresh_of_looked hlooked hend hstores hact)
  · rcases hend.of_append with ⟨q', hwork, _⟩
    exact .inr ⟨t₁, q', rfl, hwork⟩

/-- Whatever a call stores behind the first step of a reset is fresh, or the call was under way at that
step. -/
theorem Traffic.fresh_or_underWay (h : Traffic s calls st (l₀ ++ f :: (m ++ x :: q)))
    (hreset : calls f.who = .reset) (hstores : Stores s x c) :
    Fresh s calls l₀ m x c ∨ UnderWay s (calls x.who) (partOf x.who l₀) := by
  have hfills : x.act.fills s.number = true := by
    rcases hstores with hact | ⟨key, hact⟩
    all_goals
      rw [hact]
      simp [Act.fills]
  have hshape : l₀ ++ f :: (m ++ x :: q) = (l₀ ++ f :: m) ++ x :: q := by simp
  rw [hshape] at h
  have hcall := h.puts hfills
  have hother : f.who ≠ x.who := by
    intro hsame
    rw [← hsame, hreset] at hcall
    cases hcall
  rw [partOf_append, partOf_cons_ne hother] at hcall
  generalize hcalls : calls x.who = k at hcall ⊢
  generalize hact : x.act = op at hcall
  generalize ht : partOf x.who l₀ ++ partOf x.who m = t at hcall
  cases hcall with
  | @refreshed name y z u own hgen hend =>
      rcases fresh_or_started ht hend hstores hact with hfresh | ⟨u₁, q', hl₀, hwork⟩
      · exact .inl hfresh
      · rw [hl₀]
        exact .inr (.refresh hgen hwork)
  | @acquired a r names _ _ q' hwork hfill =>
      -- a call that has asked something before the reset is under way with its authenticator
      cases hl₀ : partOf x.who l₀ with
      | cons e t₁ =>
          rw [hl₀] at ht
          subst ht
          rcases hwork.of_append with ⟨q'', hbefore, _⟩
          exact .inr (.authenticator hbefore)
      | nil =>
          rw [hl₀, List.nil_append] at ht
          subst ht
          generalize ht : partOf x.who m = t at hwork hfill
          refine .inl ?_
          cases hfill with
          | @refreshed before y z u own _ hend =>
              have hlooked : partOf x.who m =
                  (before ++ [⟨.look s.number, y⟩, ⟨.acquire s.number, ()⟩]) ++
                    ⟨.look s.number, z⟩ :: u := by
                rw [ht]
                simp [opening]
              exact fresh_of_looked hlooked hend hstores hact
          | acquired t key granted =>
              have hgranted : granted = c := by
                rcases hstores with hsettle | ⟨key', hretain⟩
                · rw [hact] at hsettle
                  cases hsettle
                · rw [hact] at hretain
                  exact (Act.retain.inj hretain).2.2
              subst hgranted
              rw [← ht] at hwork
              exact .acquired hcalls hl₀ hwork hact

/-! ## What a vault shows behind a reset -/

/-- Whether a credential was stored in the steps `m` behind `l₀`, and is fresh or the work of a call that
was under way at the end of `l₀`. -/
def Since (s : Session) (calls : ι → Call) (l₀ m : List (Event ι)) (c : Credential) : Prop :=
  ∃ m₁ x m₂, m = m₁ ++ x :: m₂ ∧ Stores s x c ∧
    (Fresh s calls l₀ m₁ x c ∨ UnderWay s (calls x.who) (partOf x.who l₀))

/-- Whether a call has ended with a credential. -/
def Call.Gets (s : Session) : Call → Transcript World → Credential → Prop
  | credential name, t, c => Walk (s.credential name) t (.done (.ok (some c)))
  | authenticate a r names, t, c => Walk (s.authenticate a r names) t (.done (.ok (some c)))
  | cached r, t, c => Walk (s.cached r) t (.done (some c))
  | reset, _, _ => False

/-- What holds of the credentials of a session behind a reset with the steps `f` and `w`. -/
structure Forgetting (s : Session) (calls : ι → Call) (l₀ : List (Event ι)) (f : Event ι)
    (l₁ : List (Event ι)) (w : Event ι) (l₂ : List (Event ι)) : Prop where
  /-- What any look at the vault shows has been stored since the reset began. -/
  shown : ∀ p e q c, l₂ = p ++ e :: q → e.Shows s.number c → Since s calls l₀ (l₁ ++ w :: p) c
  /-- What a call gets that begins behind the reset has been stored since the reset began. -/
  got : ∀ i c, partOf i (l₀ ++ f :: (l₁ ++ [w])) = [] →
    (calls i).Gets s (partOf i (l₀ ++ f :: (l₁ ++ w :: l₂))) c → Since s calls l₀ (l₁ ++ w :: l₂) c

/-- What a look at the slot shows behind a clear has been stored since. -/
theorem Traffic.stores_of_slot {y : Look} (h : Traffic s calls st (l₀ ++ f :: (m ++ x :: q)))
    (hclear : f.act = .forget s.number)
    (hlook : (⟨x.act, x.answer⟩ : Entry World) = ⟨.look s.number, y⟩)
    (hheld : y.1.credential = some c) : ∃ m₁ z m₂, m = m₁ ++ z :: m₂ ∧ Stores s z c := by
  have hshape : l₀ ++ f :: (m ++ x :: q) = (l₀ ++ f :: m) ++ x :: q := by simp
  rw [hshape] at h
  have hshown := look_of_admits hlook h.admits
  have hempty : ((storeAfter st (l₀ ++ [f])).vault s.number).slot.credential = none := by
    simp [hclear, Act.onStore, SlotState.cleared]
  have hnew : ∀ e ∈ m, establishes s.number e.act = false := by
    intro e he
    rcases List.append_of_mem he with ⟨n₁, n₂, rfl⟩
    have hmiddle : Traffic s calls st ((l₀ ++ f :: n₁) ++ e :: (n₂ ++ x :: q)) := by simpa using h
    exact hmiddle.establishes_eq_false
  have hslot : ((storeAfter (storeAfter st (l₀ ++ [f])) m).vault s.number).slot.credential =
      some c := by
    rw [← storeAfter_append, List.append_assoc, List.singleton_append, ← hshown]
    exact hheld
  rcases exists_settle_of_slot hempty hnew hslot with ⟨m₁, z, m₂, rfl, hact⟩
  exact ⟨m₁, z, m₂, rfl, .inl hact⟩

/-- What a look into the cache shows behind a wipe has been stored since. -/
theorem Traffic.stores_of_cache {key : String} {now : Instant}
    (h : Traffic s calls st (l₀ ++ w :: (m ++ x :: q))) (hwipe : w.act = .wipe s.number)
    (hrecall : (⟨x.act, x.answer⟩ : Entry World) = ⟨.recall s.number key, (some c, now)⟩) :
    ∃ m₁ z m₂, m = m₁ ++ z :: m₂ ∧ Stores s z c := by
  have hshape : l₀ ++ w :: (m ++ x :: q) = (l₀ ++ w :: m) ++ x :: q := by simp
  rw [hshape] at h
  have hshown := recall_of_admits (congrArg Sigma.fst hrecall) h.admits
  have hempty : ((storeAfter st (l₀ ++ [w])).vault s.number).cache.entries = [] := by
    simp [hwipe, Act.onStore, Keyed.clear]
  have hfound : ((storeAfter (storeAfter st (l₀ ++ [w])) m).vault s.number).cache.find? key =
      some c := by
    rw [← storeAfter_append, List.append_assoc, List.singleton_append]
    have hanswer := eq_of_heq (Sigma.mk.inj (hrecall.symm.trans hshown)).2
    exact (Prod.mk.inj hanswer).1.symm
  rcases exists_retain_of_find? hempty hfound with ⟨m₁, z, m₂, rfl, hact, _⟩
  exact ⟨m₁, z, m₂, rfl, .inr ⟨key, hact⟩⟩

/-- What any look shows behind a reset has been stored since the reset began. -/
theorem Traffic.since_of_shows {p : List (Event ι)} {e : Event ι}
    (h : Traffic s calls st (l₀ ++ f :: (l₁ ++ w :: (p ++ e :: q)))) (hreset : Resets s calls f w)
    (hshows : e.Shows s.number c) : Since s calls l₀ (l₁ ++ w :: p) c := by
  have hstored : ∃ m₁ x m₂, l₁ ++ w :: p = m₁ ++ x :: m₂ ∧ Stores s x c := by
    cases hshows with
    | slot hlook hheld =>
        have hclear : Traffic s calls st (l₀ ++ f :: ((l₁ ++ w :: p) ++ e :: q)) := by simpa using h
        exact hclear.stores_of_slot hreset.cleared hlook hheld
    | cache hrecall =>
        have hwipe : Traffic s calls st ((l₀ ++ f :: l₁) ++ w :: (p ++ e :: q)) := by simpa using h
        rcases hwipe.stores_of_cache hreset.emptied hrecall with ⟨m₁, z, m₂, rfl, hstores⟩
        exact ⟨l₁ ++ w :: m₁, z, m₂, by simp, hstores⟩
  rcases hstored with ⟨m₁, x, m₂, hm, hstores⟩
  have hsteps : l₁ ++ w :: (p ++ e :: q) = m₁ ++ x :: (m₂ ++ e :: q) := by
    calc
      l₁ ++ w :: (p ++ e :: q) = (l₁ ++ w :: p) ++ e :: q := by simp
      _ = (m₁ ++ x :: m₂) ++ e :: q := by rw [hm]
      _ = m₁ ++ x :: (m₂ ++ e :: q) := by simp
  rw [hsteps] at h
  exact ⟨m₁, x, m₂, hm, hstores, h.fresh_or_underWay hreset.call hstores⟩

theorem Since.append (h : Since s calls l₀ m c) (n : List (Event ι)) :
    Since s calls l₀ (m ++ n) c := by
  rcases h with ⟨m₁, x, m₂, rfl, hstores, hsource⟩
  exact ⟨m₁, x, m₂ ++ n, by simp, hstores, hsource⟩

/-- What a call stores itself that begins behind a reset has been stored since the reset began. -/
theorem Traffic.since_of_own {t u : Transcript World} {e : Entry World}
    (h : Traffic s calls st (l₀ ++ f :: (l₁ ++ w :: l₂))) (hreset : Resets s calls f w) {i : ι}
    (hpart : partOf i l₂ = t ++ e :: u)
    (hstores : e.1 = .settle s.number (.ok (some c)) ∨ ∃ key, e.1 = .retain s.number key c) :
    Since s calls l₀ (l₁ ++ w :: l₂) c := by
  rcases partOf_eq_append_cons hpart with ⟨n₁, x, n₂, rfl, _, _, rfl, _⟩
  have hsteps : l₁ ++ w :: (n₁ ++ x :: n₂) = (l₁ ++ w :: n₁) ++ x :: n₂ := by simp
  rw [hsteps] at h ⊢
  exact ⟨_, x, n₂, rfl, hstores, h.fresh_or_underWay hreset.call hstores⟩

/-- Behind a reset a session gives away credentials that are fresh, or the work of calls that the reset
found under way. -/
theorem reset_forgets (h : Traffic s calls st (l₀ ++ f :: (l₁ ++ w :: l₂)))
    (hreset : Resets s calls f w) : Forgetting s calls l₀ f l₁ w l₂ where
  shown p e q c hl₂ hshows := by
    subst hl₂
    exact h.since_of_shows hreset hshows
  got i c hbegins hgets := by
    have hwhole : partOf i (l₀ ++ f :: (l₁ ++ w :: l₂)) = partOf i l₂ := by
      have hsteps : l₀ ++ f :: (l₁ ++ w :: l₂) = (l₀ ++ f :: (l₁ ++ [w])) ++ l₂ := by simp
      rw [hsteps, partOf_append, hbegins, List.nil_append]
    rw [hwhole] at hgets
    -- the call was shown the credential, or it has stored it itself
    have hsource : (∃ p e q, l₂ = p ++ e :: q ∧ e.Shows s.number c) ∨
        ∃ t e u, partOf i l₂ = t ++ e :: u ∧
          (e.1 = .settle s.number (.ok (some c)) ∨ ∃ key, e.1 = .retain s.number key c) := by
      cases hcall : calls i with
      | credential name =>
          rw [hcall] at hgets
          rcases returned_of_walk hgets with ⟨t₁, y, t₂, ht, hheld⟩ | ⟨y, z, u, t₂, now, ht, _⟩
          · rcases partOf_eq_append ht with ⟨n₁, n₂, rfl, _, hback⟩
            rcases partOf_eq_cons hback with ⟨n₃, e, n₄, rfl, _, _, hentry, _⟩
            exact .inl ⟨n₁ ++ n₃, e, n₄, by simp, .slot hentry.symm hheld⟩
          · rw [← List.append_assoc] at ht
            exact .inr ⟨_, _, _, ht, .inl rfl⟩
      | authenticate a r names =>
          rw [hcall] at hgets
          rcases retained_of_walk hgets with ⟨t, ht⟩
          exact .inr ⟨t, _, _, ht, .inr ⟨_, rfl⟩⟩
      | cached r =>
          rw [hcall] at hgets
          rcases cached_of_walk_done hgets with ⟨held, now, u, hu, hfound⟩
          rcases partOf_eq_cons hu with ⟨p, e, q, rfl, _, _, hentry, _⟩
          have hheld := (Credential.liveAt_eq_some.1 hfound.symm).1
          subst hheld
          exact .inl ⟨p, e, q, rfl, .cache hentry.symm⟩
      | reset =>
          rw [hcall] at hgets
          exact hgets.elim
    rcases hsource with ⟨p, e, q, rfl, hshows⟩ | ⟨t, e, u, hpart, hstores⟩
    · have hsince := (h.since_of_shows hreset hshows).append (e :: q)
      simpa using hsince
    · exact h.since_of_own hreset hpart hstores

/-! ### A refresh that a reset overtakes -/

namespace Overtaking

/-- A session with a source of tokens. -/
def reader : Session := ⟨0, "reader", .openId {} true⟩

inductive Caller where
  | first
  | second
  | third
deriving DecidableEq

/-- The first call gets the credential, the second one resets the session, and the third one gets the
credential again. -/
def trio : Caller → Call
  | .first => .credential IdToken.name
  | .second => .reset
  | .third => .credential IdToken.name

def now : Instant := ⟨0, 0⟩

/-- The credential of the token that the source gives. -/
def old : Credential :=
  IdToken.credentialOf IdToken.unaddressed IdToken.unaddressedIdentity
    { scheme := "urn", path := "i" } ⟨4102444800, 0⟩

/-- The first call has started its refresh. -/
def early : List (Event Caller) :=
  [⟨.first, .look 0, ({}, now), now⟩, ⟨.first, .acquire 0, (), now⟩, ⟨.first, .look 0, ({}, now), now⟩,
    ⟨.first, .pause, (), now⟩]

def cleared : Event Caller := ⟨.second, .forget 0, (), now⟩

def emptied : Event Caller := ⟨.second, .wipe 0, (), now⟩

/-- The first call ends its refresh, and the third one looks at the slot. -/
def late : List (Event Caller) :=
  [⟨.first, .freshToken 0, .ok IdToken.unaddressed, now⟩, ⟨.first, .clock, now, now⟩,
    ⟨.first, .settle 0 (.ok (some old)), now, now⟩, ⟨.first, .release 0, (), now⟩,
    ⟨.third, .look 0, ({ credential := some old, generation := 2 }, now), now⟩]

/-- The steps of the refresh. -/
def refreshing : Transcript World :=
  [⟨.pause, ()⟩, ⟨.freshToken 0, .ok IdToken.unaddressed⟩, ⟨.clock, now⟩]

theorem walk_refresh : Walk reader.refresh refreshing (.done (.ok (some old))) := by
  have hrefresh : reader.refresh = renew 0 {} := rfl
  have hnow : now.seconds ≤ 4102444800 := by decide
  have hverify := IdToken.walk_unaddressed hnow
  rw [hrefresh, renew_eq]
  exact .answered (.answered (hverify.bind _))

theorem credential_eq :
    reader.credential IdToken.name = getOrRefresh 0 reader.refresh := by
  rw [credential]
  exact if_pos rfl

/-- All steps. -/
def log : List (Event Caller) := early ++ cleared :: ([] ++ emptied :: late)

/-- The first call refreshes, and returns what it has refreshed. -/
theorem walk_first : Walk (reader.credential IdToken.name) (partOf .first log) (.done (.ok (some old))) := by
  have hpart : partOf .first log = opening 0 ({}, now) ({}, now) ++
      (refreshing ++ [⟨.settle 0 (.ok (some old)), now⟩, ⟨.release 0, ()⟩]) := rfl
  have hfinish : Walk (finish 0 (.ok (some old)))
      [⟨.settle 0 (.ok (some old)), now⟩, ⟨.release 0, ()⟩] (.done (.ok (some old))) :=
    .answered (.answered (.here _))
  rw [hpart, credential_eq, getOrRefresh_eq]
  refine .answered (.answered ?_)
  rw [underLock_eq]
  exact .answered ((walk_refresh.bind (finish 0)).append hfinish)

/-- The third call finds a live credential. -/
theorem walk_third : Walk (reader.credential IdToken.name) (partOf .third log) (.done (.ok (some old))) := by
  rw [credential_eq, getOrRefresh_eq]
  exact .answered (.here _)

theorem traffic_log : Traffic reader trio {} log where
  runs := by
    refine exists_runs ?_ ?_
    · exact ⟨rfl, rfl, rfl, trivial, rfl, rfl, rfl, trivial, rfl, trivial, rfl, trivial, rfl, trivial,
        rfl, rfl, rfl, rfl, rfl, trivial, rfl, rfl, trivial⟩
    · intro i
      match i with
      | .first => exact ⟨_, walk_first⟩
      | .second => exact ⟨_, .answered (.answered (.here _))⟩
      | .third => exact ⟨_, walk_third⟩
  uses := by
    intro i a r names h
    match i with
    | .first => cases h
    | .second => cases h
    | .third => cases h

theorem resets_log : Resets reader trio cleared emptied := ⟨rfl, rfl, rfl, rfl⟩

theorem underWay_early : UnderWay reader (trio .first) (partOf .first early) := by
  have hstarted : Walk reader.refresh [⟨.pause, ()⟩] _ := .answered (.here _)
  exact .refresh (x := ({}, now)) (y := ({}, now)) rfl hstarted

end Overtaking

open Overtaking in
/-- The call that begins behind the reset gets the credential of the refresh that was under way. -/
theorem overtaken_gets :
    Traffic reader trio {} (early ++ cleared :: ([] ++ emptied :: late)) ∧
      Resets reader trio cleared emptied ∧ UnderWay reader (trio .first) (partOf .first early) ∧
      Walk reader.refresh refreshing (.done (.ok (some old))) ∧
      partOf .third (early ++ cleared :: ([] ++ [emptied])) = [] ∧
      (trio .third).Gets reader (partOf .third (early ++ cleared :: ([] ++ emptied :: late))) old :=
  ⟨traffic_log, resets_log, underWay_early, walk_refresh, rfl, walk_third⟩

open Overtaking in
theorem reset_forgets_overtaken :
    Traffic reader trio {} (early ++ cleared :: ([] ++ emptied :: late)) ∧
      Resets reader trio cleared emptied ∧ Forgetting reader trio early cleared [] emptied late :=
  ⟨traffic_log, resets_log, reset_forgets traffic_log resets_log⟩

end Session
end Countersign
