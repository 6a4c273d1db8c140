import Countersign.Proofs.CacheHistory
import Countersign.Proofs.ResourceKeys

/-!
# Calls on one cache

Any number of programs get and put the negotiated credentials of one session.  A get looks up a
credential and drops it in a second step if it has expired, and the other calls may come between the two.
So a get may drop what it has not looked at: a credential that was put behind its look.  The time of a look
is the time at which the get checks what it has found.

* `CredentialCache.Call` — a call that gets or puts a credential;
* `CredentialCache.Asks` — what a call asks, with what it has asked before;
* `CredentialCache.Fate` — what has become of a credential when the cache is looked at behind the put;
* `CredentialCache.consistent` — a get returns what was put for its URI last and is live, and behind a put
  every get returns what was put, unless one was about to drop the credential before it;
* `CredentialCache.lost_put` — a get that drops a credential which was put behind its look.
-/

namespace Countersign

/-! ## Calls and their runs -/

namespace CredentialCache

open Program

/-- A call on a cache. -/
inductive Call where
  | get (uri : Url)
  | put (uri : Url) (c : Credential)

/-- What a call ends in. -/
abbrev Call.Result : Call → Type
  | get _ => Option Credential
  | put _ _ => Unit

/-- The program of a call. -/
def Call.program (id : SessionId) : (k : Call) → Run k.Result
  | get uri => CredentialCache.get id uri
  | put uri c => CredentialCache.put id uri c

/-- Whether a call has looked up a credential that had expired, and has not dropped it yet. -/
def Pending (id : SessionId) (k : String) (t : Transcript World) : Prop :=
  ∃ held now, t = [⟨.recall id k, (some held, now)⟩] ∧ held.isExpiredAt now = true

theorem Pending.of_append {id : SessionId} {k : String} {t u : Transcript World}
    (h : Pending id k (t ++ u)) : Pending id k t ∨ Pending id k u := by
  rcases h with ⟨held, now, happend, hexpired⟩
  rcases List.append_eq_singleton_iff.1 happend with ⟨_, hu⟩ | ⟨ht, _⟩
  · exact .inr ⟨held, now, hu, hexpired⟩
  · exact .inl ⟨held, now, ht, hexpired⟩

/-- What a call asks, with what it has asked before. -/
inductive Asks (id : SessionId) : Call → Transcript World → Act → Prop where
  | look (uri : Url) : Asks id (.get uri) [] (.recall id (key uri))
  | drop {uri : Url} {t : Transcript World} :
      Pending id (key uri) t → Asks id (.get uri) t (.discard id (key uri))
  | store (uri : Url) (c : Credential) : Asks id (.put uri c) [] (.retain id (key uri) c)

theorem asks_of_walk {id : SessionId} {k : Call} {t : Transcript World} {op : Act}
    {next : op.Answer → Run k.Result} (h : Walk (k.program id) t (ask (I := World) op next)) :
    Asks id k t op := by
  cases k with
  | get uri =>
      rcases get_of_walk_ask h with ⟨rfl, rfl⟩ | ⟨held, now, ht, hexpired, rfl⟩
      · exact .look uri
      · exact .drop ⟨held, now, ht, hexpired⟩
  | put uri c =>
      rcases walk_ask_iff.1 h with ⟨rfl, hop⟩ | ⟨_, t', rfl, hrest⟩
      · cases hop
        exact .store uri c
      · rcases walk_done_iff.1 hrest with ⟨_, hop⟩
        cases hop

namespace Asks

variable {id : SessionId} {call : Call} {t : Transcript World} {op : Act} {uri : Url} {k : String}
  {c : Credential}

/-- What is stored under a key was put for a URI with that key. -/
theorem of_retain (h : Asks id call t (.retain id k c)) :
    ∃ source, call = .put source c ∧ key source = k := by
  cases h with
  | store source c => exact ⟨source, rfl, rfl⟩

/-- Only a get that has found it expired drops a credential. -/
theorem of_discard (h : Asks id call t (.discard id k)) :
    (∃ uri, call = .get uri) ∧ Pending id k t := by
  cases h with
  | @drop uri _ hpending => exact ⟨⟨uri, rfl⟩, hpending⟩

theorem of_put (h : Asks id (.put uri c) t op) : op = .retain id (key uri) c := by
  cases h with
  | store => rfl

theorem of_get_nil (h : Asks id (.get uri) [] op) : op = .recall id (key uri) := by
  cases h with
  | look => rfl
  | drop hpending =>
      rcases hpending with ⟨_, _, ht, _⟩
      cases ht

/-- The calls change what is held under a key by dropping and by storing. -/
theorem changes (h : Asks id call t op) (htouch : op.touches id k = true) :
    op = .discard id k ∨ ∃ c, op = .retain id k c := by
  cases h with
  | look uri => cases htouch
  | @drop uri _ _ =>
      have hkey : key uri = k := by simpa [Act.touches] using htouch
      exact .inl (by rw [hkey])
  | store uri c =>
      have hkey : key uri = k := by simpa [Act.touches] using htouch
      exact .inr ⟨c, by rw [hkey]⟩

theorem not_establish (h : Asks id call t op) (settings : CacheSettings) (held : Option Credential) :
    op ≠ .establish id settings held := by
  cases h with
  | look | drop | store => exact Act.noConfusion

end Asks

variable {ι : Type} [DecidableEq ι]

/-- A run of calls on one cache that keeps what is put into it, and is empty at first. -/
structure Traffic (id : SessionId) (calls : ι → Call) (s : Store) (l : List (Event ι)) : Prop where
  runs : ∃ d, Runs ⟨s, fun i => (calls i).program id⟩ l d
  keeps : (s.vault id).cache.keeps = true
  fresh : (s.vault id).cache.entries = []

/-! ## What becomes of a credential -/

/-- What the cache shows of the credential `c` that was put for a URI, in a look that stands behind the
steps `b`, which follow the put; `before` are the steps before it. -/
inductive Fate (id : SessionId) (calls : ι → Call) (before b : List (Event ι)) (uri : Url)
    (c : Credential) : Option Credential → Prop where
  /-- It is still held. -/
  | held : (∀ x ∈ b, x.act.touches id (key uri) = false) → Fate id calls before b uri c (some c)
  /-- Another credential was put for the URI. -/
  | replaced {b₁ b₂ : List (Event ι)} {w : Event ι} {source : Url} {c' : Credential}
      {found : Option Credential} :
      b = b₁ ++ w :: b₂ → calls w.who = .put source c' → source.Alike uri →
      Fate id calls before b uri c found
  /-- A get looked it up and found it expired. -/
  | dropped {b₁ b₂ : List (Event ι)} {y : Event ι} :
      b = b₁ ++ y :: b₂ →
      (⟨y.act, y.answer⟩ : Entry World) = ⟨.recall id (key uri), (some c, y.time)⟩ →
      c.isExpiredAt y.time = true → Fate id calls before b uri c none
  /-- A get dropped it that had looked before it was put. -/
  | lost {b₁ b₂ : List (Event ι)} {x : Event ι} :
      b = b₁ ++ x :: b₂ → x.act = .discard id (key uri) → Pending id (key uri) (partOf x.who before) →
      Fate id calls before b uri c none

/-- Where a credential comes from that a get has returned: it was put for the URI, nothing was put or
dropped under its key until the get looked it up, and then it was live. -/
inductive Returned (id : SessionId) (calls : ι → Call) (l : List (Event ι)) (i : ι) (uri : Url)
    (c : Credential) : Prop where
  | mk {before b d : List (Event ι)} {p g : Event ι} {source : Url} :
      l = before ++ p :: (b ++ g :: d) → calls p.who = .put source c → source.Alike uri →
      (∀ x ∈ b, x.act.touches id (key uri) = false) → g.who = i → g.act = .recall id (key uri) →
      c.isExpiredAt g.time = false → Returned id calls l i uri c

/-- What holds of the calls on a cache. -/
structure Consistent (id : SessionId) (calls : ι → Call) (l : List (Event ι)) : Prop where
  /-- A get returns what was put for its URI last, and that was live when it was looked up. -/
  returned : ∀ i uri c, calls i = .get uri → Walk (CredentialCache.get id uri) (partOf i l) (done (some c)) →
    Returned id calls l i uri c
  /-- What becomes of a credential that was put. -/
  fate : ∀ before p b g d source c uri found, l = before ++ p :: (b ++ g :: d) →
    calls p.who = .put source c → source.Alike uri →
    (⟨g.act, g.answer⟩ : Entry World) = ⟨.recall id (key uri), (found, g.time)⟩ →
    Fate id calls before b uri c found
  /-- A get that begins behind a put returns what was put, unless it has expired by then or has been
  replaced, or some get was about to drop a credential when it was put. -/
  kept : ∀ before p rest source c i uri, l = before ++ p :: rest → calls p.who = .put source c →
    calls i = .get uri → source.Alike uri → partOf i before = [] → partOf i rest ≠ [] →
    (∀ j, ¬ Pending id (key uri) (partOf j before)) →
    (∀ b e d, rest = b ++ e :: d → partOf i b = [] → c.isExpiredAt e.time = false ∧
      ∀ source' c', calls e.who = .put source' c' → ¬ source'.Alike uri) →
    Walk (CredentialCache.get id uri) (partOf i l) (done (some c))

namespace Traffic

variable {id : SessionId} {calls : ι → Call} {s : Store} {l l₁ l₂ : List (Event ι)} {e : Event ι}
  {uri : Url} {c : Credential} {i : ι}

theorem asks (h : Traffic id calls s (l₁ ++ e :: l₂)) :
    Asks id (calls e.who) (partOf e.who l₁) e.act := by
  rcases h.runs with ⟨d, hruns⟩
  rcases hruns.event with ⟨⟨next, hwalk⟩, _⟩
  exact asks_of_walk hwalk

theorem admits (h : Traffic id calls s (l₁ ++ e :: l₂)) :
    e.act.Admits (storeAfter s l₁) e.time e.answer := by
  rcases h.runs with ⟨d, hruns⟩
  exact hruns.event.2.2

/-- The step of a look behind a put, with all the steps before it. -/
theorem at_look {before b d : List (Event ι)} {p g : Event ι}
    (h : Traffic id calls s (before ++ p :: (b ++ g :: d))) :
    Traffic id calls s ((before ++ p :: b) ++ g :: d) := by
  simpa using h

theorem retain_of_put {source : Url} (h : Traffic id calls s (l₁ ++ e :: l₂))
    (hput : calls e.who = .put source c) (halike : source.Alike uri) :
    e.act = .retain id (key uri) c := by
  have hasks := h.asks
  rw [hput] at hasks
  rw [hasks.of_put, Url.alike_iff.1 halike]

theorem put_of_retain (h : Traffic id calls s (l₁ ++ e :: l₂)) (hact : e.act = .retain id (key uri) c) :
    ∃ source, calls e.who = .put source c ∧ source.Alike uri := by
  have hasks := h.asks
  rw [hact] at hasks
  rcases hasks.of_retain with ⟨source, hput, hkey⟩
  exact ⟨source, hput, Url.alike_iff.2 hkey⟩

theorem walk_get (h : Traffic id calls s l) (hget : calls i = .get uri) :
    ∃ q, Walk (CredentialCache.get id uri) (partOf i l) q := by
  rcases h.runs with ⟨d, hruns⟩
  have hwalk := hruns.walk i
  generalize d.programs i = q at hwalk
  dsimp only at hwalk
  revert q
  rw [hget]
  exact fun q hwalk => ⟨q, hwalk⟩

theorem keeps_before (h : Traffic id calls s (l₁ ++ l₂)) :
    ((storeAfter s l₁).vault id).cache.keeps = true := by
  rw [keeps_storeAfter, h.keeps]
  intro e he settings held
  rcases List.append_of_mem he with ⟨m₁, m₂, rfl⟩
  have hstep : Traffic id calls s (m₁ ++ e :: (m₂ ++ l₂)) := by simpa using h
  exact hstep.asks.not_establish settings held

/-- A look behind a put shows what was put if nothing has touched its key in between. -/
theorem found_of_untouched {before b d : List (Event ι)} {p g : Event ι} {source : Url}
    {x : Option Credential × Instant}
    (h : Traffic id calls s (before ++ p :: (b ++ g :: d))) (hput : calls p.who = .put source c)
    (halike : source.Alike uri) (hb : ∀ x ∈ b, x.act.touches id (key uri) = false)
    (hlook : (⟨g.act, g.answer⟩ : Entry World) = ⟨.recall id (key uri), x⟩) :
    x = (some c, g.time) := by
  rw [find?_of_admits h.at_look.admits hlook,
    find?_of_retain h.keeps_before (h.retain_of_put hput halike) hb]

/-- A get drops what was put if it has looked it up and found it expired, or if it had looked before. -/
theorem pending_or_dropped {before b₁ b₂ : List (Event ι)} {p x : Event ι} {source : Url}
    (h : Traffic id calls s (before ++ p :: (b₁ ++ x :: b₂))) (hput : calls p.who = .put source c)
    (halike : source.Alike uri) (hb₁ : ∀ y ∈ b₁, y.act.touches id (key uri) = false)
    (hdrop : x.act = .discard id (key uri)) :
    Pending id (key uri) (partOf x.who before) ∨
      ∃ m₁ y m₂, b₁ = m₁ ++ y :: m₂ ∧
        (⟨y.act, y.answer⟩ : Entry World) = ⟨.recall id (key uri), (some c, y.time)⟩ ∧
        c.isExpiredAt y.time = true := by
  have hasks := h.at_look.asks
  rw [hdrop] at hasks
  rcases hasks.of_discard with ⟨⟨uri', hget⟩, hpending⟩
  have hother : p.who ≠ x.who := by
    intro hsame
    rw [hsame, hget] at hput
    cases hput
  rw [partOf_append, partOf_cons_ne hother] at hpending
  rcases hpending.of_append with hbefore | ⟨held, now, hpart, hexpired⟩
  · exact .inl hbefore
  · -- the look stands behind the put, and nothing has touched the key in between
    rcases partOf_eq_cons hpart with ⟨m₁, y, m₂, rfl, _, _, hentry, _⟩
    have hfound : (some held, now) = (some c, y.time) := by
      have hsplit : before ++ p :: (m₁ ++ y :: m₂ ++ x :: b₂) =
          before ++ p :: (m₁ ++ y :: (m₂ ++ x :: b₂)) := by simp
      rw [hsplit] at h
      exact h.found_of_untouched hput halike (fun z hz => hb₁ z (List.mem_append_left _ hz)) hentry.symm
    rw [hfound] at hentry
    cases hfound
    exact .inr ⟨m₁, y, m₂, rfl, hentry.symm, hexpired⟩

/-- While nothing is put again, a look behind a put shows what was put, or a get has dropped it. -/
theorem fate_of_once {before b d : List (Event ι)} {p g : Event ι} {source : Url}
    {found : Option Credential}
    (h : Traffic id calls s (before ++ p :: (b ++ g :: d))) (hput : calls p.who = .put source c)
    (halike : source.Alike uri)
    (hlook : (⟨g.act, g.answer⟩ : Entry World) = ⟨.recall id (key uri), (found, g.time)⟩)
    (honce : ∀ x ∈ b, ∀ c', x.act ≠ .retain id (key uri) c') : Fate id calls before b uri c found := by
  cases hfirst : b.find? fun x => x.act.touches id (key uri) with
  | none =>
      have hb : ∀ x ∈ b, x.act.touches id (key uri) = false := by
        simpa using List.find?_eq_none.1 hfirst
      cases h.found_of_untouched hput halike hb hlook
      exact .held hb
  | some x =>
      -- the first step that touches the key drops the credential
      rcases List.find?_eq_some_iff_append.1 hfirst with ⟨htouch, b₁, b₂, rfl, hfree⟩
      have hb₁ : ∀ y ∈ b₁, y.act.touches id (key uri) = false := by simpa using hfree
      have hshown := find?_of_admits h.at_look.admits hlook
      rw [List.append_assoc, List.cons_append] at h
      have hdrop : x.act = .discard id (key uri) := by
        rcases h.at_look.asks.changes htouch with hdrop | ⟨c', hact⟩
        · exact hdrop
        · exact absurd hact (honce x (by simp) c')
      have hnone : found = none := by
        have hwhole : before ++ p :: (b₁ ++ x :: b₂) = (before ++ p :: b₁) ++ x :: b₂ := by simp
        have hlast : ∀ z ∈ b₂, ∀ c', z.act ≠ .retain id (key uri) c' :=
          fun z hz => honce z (by simp [hz])
        rw [hwhole, find?_of_discard hdrop hlast] at hshown
        exact (Prod.mk.inj hshown).1
      subst hnone
      rcases h.pending_or_dropped hput halike hb₁ hdrop with hpending | ⟨m₁, y, m₂, rfl, hentry, hexpired⟩
      · exact .lost rfl hdrop hpending
      · have hsplit : m₁ ++ y :: m₂ ++ x :: b₂ = m₁ ++ y :: (m₂ ++ x :: b₂) := by simp
        exact .dropped hsplit hentry hexpired

theorem fate {before b d : List (Event ι)} {p g : Event ι} {source : Url} {found : Option Credential}
    (h : Traffic id calls s (before ++ p :: (b ++ g :: d))) (hput : calls p.who = .put source c)
    (halike : source.Alike uri)
    (hlook : (⟨g.act, g.answer⟩ : Entry World) = ⟨.recall id (key uri), (found, g.time)⟩) :
    Fate id calls before b uri c found := by
  -- a later put decides everything, wherever it stands among the steps
  by_cases hagain : ∃ w ∈ b, ∃ c', w.act = .retain id (key uri) c'
  · rcases hagain with ⟨w, hw, c', hact⟩
    rcases List.append_of_mem hw with ⟨b₁, b₂, rfl⟩
    rw [List.append_assoc, List.cons_append] at h
    rcases h.at_look.put_of_retain hact with ⟨source', hput', halike'⟩
    exact .replaced rfl hput' halike'
  · push Not at hagain
    exact h.fate_of_once hput halike hlook hagain

theorem returned (h : Traffic id calls s l)
    (hend : Walk (CredentialCache.get id uri) (partOf i l) (done (some c))) :
    Returned id calls l i uri c := by
  rcases get_of_walk_done hend with ⟨held, now, t, hpart, hfound⟩
  rcases partOf_eq_cons hpart with ⟨b, g, d, rfl, _, hwho, hentry, _⟩
  rcases Credential.liveAt_eq_some.1 hfound.symm with ⟨hheld, hlive⟩
  cases find?_of_admits h.admits hentry.symm
  -- what the look has found was put behind everything else that touched the key
  rcases exists_retain_of_find? h.fresh hheld with ⟨before, p, q, rfl, hact, hq⟩
  have hshape : before ++ p :: q ++ g :: d = before ++ p :: (q ++ g :: d) := by simp
  rw [hshape] at h ⊢
  rcases h.put_of_retain hact with ⟨source, hput, halike⟩
  exact .mk rfl hput halike hq hwho (congrArg Sigma.fst hentry).symm hlive

/-- A get that has looked up a live credential has returned it. -/
theorem ends_of_live {now : Instant} {t : Transcript World} (h : Traffic id calls s l)
    (hget : calls i = .get uri)
    (hpart : partOf i l = ⟨.recall id (key uri), (some c, now)⟩ :: t)
    (hlive : c.isExpiredAt now = false) :
    Walk (CredentialCache.get id uri) (partOf i l) (done (some c)) := by
  rcases h.walk_get hget with ⟨q, hwalk⟩
  rw [hpart] at hwalk ⊢
  cases getting_of_walk hwalk with
  | live _ => exact hwalk
  | expired hexpired | dropped hexpired =>
      rw [hlive] at hexpired
      cases hexpired

/-- A look behind a put shows what was put, if no get is about to drop a credential when it is put. -/
theorem found_of_nobody {before b d : List (Event ι)} {p g : Event ι} {source : Url}
    (h : Traffic id calls s (before ++ p :: (b ++ g :: d))) (hput : calls p.who = .put source c)
    (halike : source.Alike uri) (hact : g.act = .recall id (key uri))
    (hnobody : ∀ j, ¬ Pending id (key uri) (partOf j before))
    (hstands : ∀ b₁ e b₂, b = b₁ ++ e :: b₂ → c.isExpiredAt e.time = false ∧
      ∀ source' c', calls e.who = .put source' c' → ¬ source'.Alike uri) :
    (⟨g.act, g.answer⟩ : Entry World) = ⟨.recall id (key uri), (some c, g.time)⟩ := by
  have hlook := recall_of_admits hact h.at_look.admits
  have hfate := h.fate hput halike hlook
  rw [hlook]
  generalize ((storeAfter s (before ++ p :: b)).vault id).cache.find? (key uri) = found at hfate
  -- only the first of the four ends is left
  cases hfate with
  | held _ => rfl
  | replaced hb hput' halike' => exact absurd halike' ((hstands _ _ _ hb).2 _ _ hput')
  | dropped hb _ hexpired =>
      rw [(hstands _ _ _ hb).1] at hexpired
      cases hexpired
  | lost _ _ hpending => exact absurd hpending (hnobody _)

theorem kept {before rest : List (Event ι)} {p : Event ι} {source : Url}
    (h : Traffic id calls s (before ++ p :: rest)) (hput : calls p.who = .put source c)
    (hget : calls i = .get uri) (halike : source.Alike uri) (hbefore : partOf i before = [])
    (hbegun : partOf i rest ≠ []) (hnobody : ∀ j, ¬ Pending id (key uri) (partOf j before))
    (hstands : ∀ b e d, rest = b ++ e :: d → partOf i b = [] → c.isExpiredAt e.time = false ∧
      ∀ source' c', calls e.who = .put source' c' → ¬ source'.Alike uri) :
    Walk (CredentialCache.get id uri) (partOf i (before ++ p :: rest)) (done (some c)) := by
  have hother : p.who ≠ i := by
    intro hsame
    rw [hsame, hget] at hput
    cases hput
  cases hrest : partOf i rest with
  | nil => exact absurd hrest hbegun
  | cons x t =>
      rcases partOf_eq_cons hrest with ⟨b, g, d, rfl, hb, hwho, hx, _⟩
      have hact : g.act = .recall id (key uri) := by
        have hasks := h.at_look.asks
        rw [hwho, partOf_append, hbefore, partOf_cons_ne hother, hb, hget] at hasks
        exact hasks.of_get_nil
      -- the steps up to the look of the get are those that count
      have hlook := h.found_of_nobody hput halike hact hnobody (by
        rintro b₁ e b₂ rfl
        refine hstands b₁ e (b₂ ++ g :: d) (by simp) ?_
        rw [partOf_append] at hb
        exact (List.append_eq_nil_iff.1 hb).1)
      have hpart : partOf i (before ++ p :: (b ++ g :: d)) =
          ⟨.recall id (key uri), (some c, g.time)⟩ :: t := by
        rw [partOf_append, hbefore, List.nil_append, partOf_cons_ne hother, hrest, hx, hlook]
      exact h.ends_of_live hget hpart (hstands b g d rfl hb).1

end Traffic

/-- Calls on a cache are consistent, however their steps are interleaved. -/
theorem consistent {id : SessionId} {calls : ι → Call} {s : Store} {l : List (Event ι)}
    (h : Traffic id calls s l) : Consistent id calls l where
  returned i uri c _ hend := h.returned hend
  fate before p b g d source c uri found hl hput halike hlook := by
    subst hl
    exact h.fate hput halike hlook
  kept before p rest source c i uri hl hput hget halike hbefore hbegun hnobody hstands := by
    subst hl
    exact h.kept hput hget halike hbefore hbegun hnobody hstands

/-! ### A credential that is lost -/

namespace LateDrop

inductive Caller where
  | first
  | slow
  | second
  | later
deriving DecidableEq

def now : Instant := ⟨0, 0⟩

def doc : Url := { scheme := "https", authority := some { host := "pod.example" }, path := "/doc" }

/-- The same document, with a fragment. -/
def part : Url := { doc with fragment := some "part" }

def spent : Credential := { scheme := bearer, issuer := doc, token := "spent", expiration := now }

def renewed : Credential := { scheme := bearer, issuer := doc, token := "renewed", expiration := ⟨60, 0⟩ }

/-- Two calls put credentials for one URI, and two calls get them. -/
def calls : Caller → Call
  | .first => .put doc spent
  | .slow => .get doc
  | .second => .put doc renewed
  | .later => .get part

/-- The slow get has looked up the first credential, which has expired. -/
def before : List (Event Caller) :=
  [⟨.first, .retain 0 (key doc) spent, (), now⟩,
    ⟨.slow, .recall 0 (key doc), (some spent, now), now⟩]

def stored : Event Caller := ⟨.second, .retain 0 (key doc) renewed, (), now⟩

/-- The slow get drops the second credential, and the later one finds nothing. -/
def rest : List (Event Caller) :=
  [⟨.slow, .discard 0 (key doc), (), now⟩, ⟨.later, .recall 0 (key part), (none, now), now⟩]

theorem traffic_log : Traffic 0 calls {} (before ++ stored :: rest) where
  runs := by
    refine exists_runs ?_ ?_
    · exact ⟨rfl, trivial, rfl, by rfl, rfl, trivial, rfl, trivial, rfl, by rfl, trivial⟩
    · intro i
      match i with
      | .first => exact ⟨_, .answered (.here _)⟩
      | .slow => exact ⟨_, .answered (.answered (.here _))⟩
      | .second => exact ⟨_, .answered (.here _)⟩
      | .later => exact ⟨_, .answered (.here _)⟩
  keeps := rfl
  fresh := rfl

end LateDrop

open LateDrop in
theorem consistent_late :
    Traffic 0 calls {} (before ++ stored :: rest) ∧ Pending 0 (key doc) (partOf .slow before) ∧
      Consistent 0 calls (before ++ stored :: rest) :=
  ⟨traffic_log, ⟨spent, now, rfl, rfl⟩, consistent traffic_log⟩

open LateDrop in
/-- A get that begins behind a put finds nothing, although what was put is live and no other call puts
anything. -/
theorem lost_put :
    Traffic 0 calls {} (before ++ stored :: rest) ∧ calls stored.who = .put doc renewed ∧
      calls .later = .get part ∧ doc.Alike part ∧ partOf .later (before ++ [stored]) = [] ∧
      (∀ e ∈ rest, renewed.isExpiredAt e.time = false ∧
        ∀ source c, calls e.who ≠ .put source c) ∧
      Walk (CredentialCache.get 0 part) (partOf .later (before ++ stored :: rest)) (done none) := by
  refine ⟨traffic_log, rfl, rfl, Url.alike_iff.2 rfl, rfl, ?_, .answered (.here _)⟩
  intro e he
  rcases List.mem_pair.1 he with rfl | rfl
  · exact ⟨rfl, fun source c => Call.noConfusion⟩
  · exact ⟨rfl, fun source c => Call.noConfusion⟩

end CredentialCache
end Countersign
