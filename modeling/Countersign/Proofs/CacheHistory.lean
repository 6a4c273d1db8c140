import Countersign.Proofs.Interleaving
import Countersign.Session.Slot
import Mathlib.Data.List.Induction

/-!
# History of a cache — where a negotiated credential was stored

A cache of negotiated credentials is written by the operations of the programs only, so what it holds
can be read off the steps that have been made.

* `Act.touches id key op` — whether an operation can change what the vault holds under a key;
* `exists_retain_of_find?` — a held credential was stored by an earlier step and left alone since;
* `find?_of_retain` — a stored credential that is left alone is held;
* `CredentialCache.Getting` — where a program is that looks up a credential.
-/

namespace Countersign

/-! ## One operation -/

/-- Whether an operation can change what the cache of a session holds under a key. -/
def Act.touches (id : SessionId) (key : String) : Act → Bool
  | .establish i _ _ => i == id
  | .discard i k => i == id && k == key
  | .retain i k _ => i == id && k == key
  | .wipe i => i == id
  | _ => false

/-- The operations that touch a key, one by one. -/
theorem Act.touches_iff {id : SessionId} {key : String} {op : Act} :
    op.touches id key = true ↔
      (∃ settings c, op = .establish id settings c) ∨ op = .discard id key ∨
        (∃ c, op = .retain id key c) ∨ op = .wipe id := by
  cases op with
  | establish i settings c => simp [touches]
  | discard i k => simp [touches]
  | retain i k c => simp [touches]
  | wipe i => simp [touches]
  | _ => simp [touches]

section

variable {id : SessionId} {key : String} {op : Act}

/-- What is not touched stays as it is. -/
theorem find?_onStore (s : Store) (h : op.touches id key = false) :
    ((op.onStore s).vault id).cache.find? key = (s.vault id).cache.find? key := by
  cases op with
  | establish i settings c =>
      have hi : i ≠ id := by simpa [Act.touches] using h
      rw [Act.onStore, Store.update_vault_ne _ (Ne.symm hi)]
  | discard i k =>
      by_cases hi : id = i
      · subst hi
        have hk : key ≠ k := by
          intro heq
          simp [Act.touches, heq] at h
        rw [Act.onStore, Store.update_vault_self]
        exact Keyed.find?_erase_ne hk
      · rw [Act.onStore, Store.update_vault_ne _ hi]
  | retain i k c =>
      by_cases hi : id = i
      · subst hi
        have hk : key ≠ k := by
          intro heq
          simp [Act.touches, heq] at h
        rw [Act.onStore, Store.update_vault_self]
        exact Keyed.find?_insert_ne hk c
      · rw [Act.onStore, Store.update_vault_ne _ hi]
  | wipe i =>
      have hi : i ≠ id := by simpa [Act.touches] using h
      rw [Act.onStore, Store.update_vault_ne _ (Ne.symm hi)]
  | acquire i | release i | settle i outcome | forget i =>
      rw [Act.onStore, Store.update_vault]
      split <;> rfl
  | _ => rfl

/-- A key under which nothing is held stays so until something is stored under it. -/
theorem find?_onStore_eq_none {s : Store} (hnone : (s.vault id).cache.find? key = none)
    (hstore : ∀ c, op ≠ .retain id key c) : ((op.onStore s).vault id).cache.find? key = none := by
  by_cases htouch : op.touches id key = true
  · rcases Act.touches_iff.1 htouch with ⟨settings, c, rfl⟩ | rfl | ⟨c, rfl⟩ | rfl
    · simp [Act.onStore, CredentialCache.ofSettings, Keyed.find?]
    · simp [Act.onStore, Keyed.find?_erase_self]
    · exact absurd rfl (hstore c)
    · simp [Act.onStore, Keyed.find?_clear]
  · rw [find?_onStore s (Bool.eq_false_iff.2 htouch), hnone]

/-- Only a new session changes whether its cache keeps anything. -/
theorem keeps_onStore (s : Store) (h : ∀ settings c, op ≠ .establish id settings c) :
    ((op.onStore s).vault id).cache.keeps = (s.vault id).cache.keeps := by
  cases op with
  | establish i settings c =>
      have hi : id ≠ i := by
        rintro rfl
        exact h settings c rfl
      rw [Act.onStore, Store.update_vault_ne _ hi]
  | retain i k c =>
      rw [Act.onStore, Store.update_vault]
      split
      · exact Keyed.keeps_insert _ k c
      · rfl
  | acquire i | release i | settle i outcome | forget i | discard i k | wipe i =>
      rw [Act.onStore, Store.update_vault]
      split <;> rfl
  | _ => rfl

/-- A cache that keeps nothing stays empty. -/
theorem entries_onStore (s : Store)
    (h : (s.vault id).cache.keeps = false → (s.vault id).cache.entries = []) :
    ((op.onStore s).vault id).cache.keeps = false → ((op.onStore s).vault id).cache.entries = [] := by
  cases op with
  | establish i settings c =>
      rw [Act.onStore, Store.update_vault]
      split
      · exact fun _ => rfl
      · exact h
  | retain i k c =>
      rw [Act.onStore, Store.update_vault]
      split
      · intro hkeeps
        rw [Keyed.keeps_insert] at hkeeps
        simp [Keyed.insert, hkeeps, h hkeeps]
      · exact h
  | discard i k =>
      rw [Act.onStore, Store.update_vault]
      split
      · intro hkeeps
        simp [Keyed.erase, h hkeeps]
      · exact h
  | wipe i =>
      rw [Act.onStore, Store.update_vault]
      split
      · exact fun _ => rfl
      · exact h
  | acquire i | release i | settle i outcome | forget i =>
      rw [Act.onStore, Store.update_vault]
      split <;> exact h
  | _ => exact h

theorem find?_retain (s : Store) (hkeeps : (s.vault id).cache.keeps = true) (c : Credential) :
    (((Act.retain id key c).onStore s).vault id).cache.find? key = some c := by
  rw [Act.onStore, Store.update_vault_self]
  exact Keyed.find?_insert_self hkeeps key c

end

/-! ## Many steps -/

section

variable {ι : Type} {id : SessionId} {key : String} {s : Store} {l : List (Event ι)}

/-- A look into a cache shows what the store holds. -/
theorem recall_of_admits {e : Event ι} (hact : e.act = .recall id key)
    (hadmits : e.act.Admits s e.time e.answer) :
    (⟨e.act, e.answer⟩ : Entry World) = ⟨.recall id key, ((s.vault id).cache.find? key, e.time)⟩ := by
  rcases e with ⟨who, act, answer, time⟩
  dsimp only at hact hadmits
  subst hact
  exact congrArg (Sigma.mk (Act.recall id key)) hadmits

theorem find?_of_admits {e : Event ι} {x : Option Credential × Instant}
    (hadmits : e.act.Admits s e.time e.answer)
    (he : (⟨e.act, e.answer⟩ : Entry World) = ⟨.recall id key, x⟩) :
    x = ((s.vault id).cache.find? key, e.time) := by
  have hlook := recall_of_admits (congrArg Sigma.fst he) hadmits
  rw [he] at hlook
  cases hlook
  rfl

theorem entries_storeAfter (hfresh : (s.vault id).cache.entries = []) (l : List (Event ι)) :
    ((storeAfter s l).vault id).cache.keeps = false →
      ((storeAfter s l).vault id).cache.entries = [] := by
  induction l using List.reverseRecOn with
  | nil => exact fun _ => hfresh
  | append_singleton l e ih =>
      rw [storeAfter_append]
      exact entries_onStore _ ih

theorem keeps_storeAfter (hnew : ∀ e ∈ l, ∀ settings c, e.act ≠ .establish id settings c) :
    ((storeAfter s l).vault id).cache.keeps = (s.vault id).cache.keeps := by
  induction l using List.reverseRecOn with
  | nil => rfl
  | append_singleton l e ih =>
      have hbefore := ih fun x hx => hnew x (List.mem_append_left _ hx)
      rw [storeAfter_append]
      exact (keeps_onStore _ (hnew e (by simp))).trans hbefore

/-- While nothing touches a key the cache holds what it held. -/
theorem find?_storeAfter (s : Store) (h : ∀ e ∈ l, e.act.touches id key = false) :
    ((storeAfter s l).vault id).cache.find? key = (s.vault id).cache.find? key := by
  induction l using List.reverseRecOn with
  | nil => rfl
  | append_singleton l e ih =>
      have hbefore := ih fun x hx => h x (List.mem_append_left _ hx)
      rw [storeAfter_append]
      exact (find?_onStore _ (h e (by simp))).trans hbefore

/-- What a cache holds was stored by an earlier step, and nothing has touched it since. -/
theorem exists_retain_of_find? {c : Credential} (hfresh : (s.vault id).cache.entries = [])
    (h : ((storeAfter s l).vault id).cache.find? key = some c) :
    ∃ p w q, l = p ++ w :: q ∧ w.act = .retain id key c ∧
      ∀ x ∈ q, x.act.touches id key = false := by
  induction l using List.reverseRecOn with
  | nil =>
      rw [storeAfter_nil, Keyed.find?, hfresh] at h
      cases h
  | append_singleton l e ih =>
      rw [storeAfter_append] at h
      by_cases htouch : e.act.touches id key = true
      · -- of the operations that touch a key only the one that stores leaves something under it
        rcases Act.touches_iff.1 htouch with ⟨settings, c', hact⟩ | hact | ⟨c', hact⟩ | hact
        · simp [hact, Act.onStore, CredentialCache.ofSettings, Keyed.find?] at h
        · simp [hact, Act.onStore, Keyed.find?_erase_self] at h
        · cases hkeeps : ((storeAfter s l).vault id).cache.keeps with
          | true =>
              have hheld : (((Act.retain id key c').onStore (storeAfter s l)).vault id).cache.find? key =
                  some c' := find?_retain _ hkeeps c'
              rw [storeAfter_cons, storeAfter_nil, hact] at h
              rw [h] at hheld
              cases hheld
              exact ⟨l, e, [], rfl, hact, by simp⟩
          | false =>
              -- storing into a cache that keeps nothing leaves it empty
              have hempty := entries_storeAfter hfresh (l ++ [e])
              have hsame : ((storeAfter s (l ++ [e])).vault id).cache.keeps = false := by
                rw [storeAfter_append, storeAfter_cons, storeAfter_nil, keeps_onStore, hkeeps]
                simp [hact]
              rw [storeAfter_append] at hempty hsame
              rw [Keyed.find?, hempty hsame] at h
              cases h
        · simp [hact, Act.onStore, Keyed.find?_clear] at h
      · replace htouch : e.act.touches id key = false := Bool.eq_false_iff.2 htouch
        rw [storeAfter_cons, storeAfter_nil, find?_onStore _ htouch] at h
        -- an older step stored it, and this one left it alone as well
        rcases ih h with ⟨p, w, q, rfl, hact, hq⟩
        refine ⟨p, w, q ++ [e], by simp, hact, ?_⟩
        intro x hx
        rcases List.mem_append.1 hx with hx | hx
        · exact hq x hx
        · cases List.mem_singleton.1 hx
          exact htouch

/-- A stored credential that nothing has touched since is held. -/
theorem find?_of_retain {p q : List (Event ι)} {w : Event ι} {c : Credential}
    (hkeeps : ((storeAfter s p).vault id).cache.keeps = true) (hact : w.act = .retain id key c)
    (hq : ∀ x ∈ q, x.act.touches id key = false) :
    ((storeAfter s (p ++ w :: q)).vault id).cache.find? key = some c := by
  rw [storeAfter_append, storeAfter_cons, hact]
  calc
    _ = (((Act.retain id key c).onStore (storeAfter s p)).vault id).cache.find? key :=
        find?_storeAfter _ hq
    _ = some c := find?_retain _ hkeeps c

/-- A dropped credential stays dropped until another is stored under its key. -/
theorem find?_of_discard {p q : List (Event ι)} {w : Event ι} (hact : w.act = .discard id key)
    (hq : ∀ x ∈ q, ∀ c, x.act ≠ .retain id key c) :
    ((storeAfter s (p ++ w :: q)).vault id).cache.find? key = none := by
  induction q using List.reverseRecOn with
  | nil =>
      rw [storeAfter_append, storeAfter_cons, storeAfter_nil, hact]
      simp [Act.onStore, Keyed.find?_erase_self]
  | append_singleton q e ih =>
      have hbefore := ih fun x hx => hq x (List.mem_append_left _ hx)
      have hshape : p ++ w :: (q ++ [e]) = (p ++ w :: q) ++ [e] := by simp
      rw [hshape, storeAfter_append]
      exact find?_onStore_eq_none hbefore (hq e (by simp))

end

/-! ## Looking up a credential -/

namespace CredentialCache

open Program

variable {id : SessionId} {uri : Url} {u : Transcript World} {op : Act}

theorem get_eq (id : SessionId) (uri : Url) :
    get id uri = ask (I := World) (.recall id (key uri)) fun x =>
      match x.1 with
      | none => done none
      | some c =>
        if c.isExpiredAt x.2 then ask (I := World) (.discard id (key uri)) fun _ => done none
        else done (some c) := rfl

/-- Where a program is that looks up a credential, with what it has asked before. -/
inductive Getting (id : SessionId) (uri : Url) : Transcript World → Run (Option Credential) → Prop where
  | start {next : Option Credential × Instant → Run (Option Credential)} :
      Getting id uri [] (ask (I := World) (.recall id (key uri)) next)
  | missing {now : Instant} : Getting id uri [⟨.recall id (key uri), (none, now)⟩] (done none)
  | live {c : Credential} {now : Instant} : c.isExpiredAt now = false →
      Getting id uri [⟨.recall id (key uri), (some c, now)⟩] (done (some c))
  | expired {c : Credential} {now : Instant} : c.isExpiredAt now = true →
      Getting id uri [⟨.recall id (key uri), (some c, now)⟩]
        (ask (I := World) (.discard id (key uri)) fun _ => done none)
  | dropped {c : Credential} {now : Instant} : c.isExpiredAt now = true →
      Getting id uri [⟨.recall id (key uri), (some c, now)⟩, ⟨.discard id (key uri), ()⟩] (done none)

theorem getting_of_walk {q : Run (Option Credential)} (h : Walk (get id uri) u q) :
    Getting id uri u q := by
  rw [get_eq] at h
  rcases walk_ask_iff.1 h with ⟨rfl, rfl⟩ | ⟨⟨_ | c, now⟩, u', rfl, hrest⟩
  · exact .start
  · rcases walk_done_iff.1 hrest with ⟨rfl, rfl⟩
    exact .missing
  · dsimp only at hrest
    cases hexpired : c.isExpiredAt now with
    | false =>
        rw [hexpired, if_neg (by simp)] at hrest
        rcases walk_done_iff.1 hrest with ⟨rfl, rfl⟩
        exact .live hexpired
    | true =>
        rw [hexpired, if_pos rfl] at hrest
        rcases walk_ask_iff.1 hrest with ⟨rfl, rfl⟩ | ⟨_, u'', rfl, hend⟩
        · exact .expired hexpired
        · rcases walk_done_iff.1 hend with ⟨rfl, rfl⟩
          exact .dropped hexpired

/-- Only an expired credential leads to another question. -/
theorem get_of_walk_ask {next : op.Answer → Run (Option Credential)}
    (h : Walk (get id uri) u (ask (I := World) op next)) :
    (u = [] ∧ op = .recall id (key uri)) ∨
      ∃ held now, u = [⟨.recall id (key uri), (some held, now)⟩] ∧
        held.isExpiredAt now = true ∧ op = .discard id (key uri) := by
  cases getting_of_walk h with
  | start => exact .inl ⟨rfl, rfl⟩
  | expired hexpired => exact .inr ⟨_, _, rfl, hexpired, rfl⟩

/-- What the cache holds is found if it is live. -/
theorem get_of_walk_done {found : Option Credential} (h : Walk (get id uri) u (done found)) :
    ∃ held now u', u = ⟨.recall id (key uri), (held, now)⟩ :: u' ∧
      found = Credential.liveAt now held := by
  cases getting_of_walk h with
  | missing => exact ⟨none, _, [], rfl, rfl⟩
  | @live c now hlive => exact ⟨some c, now, [], rfl, by simp [Credential.liveAt_some, hlive]⟩
  | @dropped c now hexpired => exact ⟨some c, now, _, rfl, by simp [Credential.liveAt_some, hexpired]⟩

end CredentialCache
end Countersign
