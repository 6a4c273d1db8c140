import Countersign.Negotiation.Authenticator

/-!
# The registry of providers

A registry says which provider answers which scheme; schemes are told apart without regard to the
case of their letters.  It is drafted by adding providers and prohibiting schemes, and fixed once.
A negotiation runs at most one authenticator: among all challenges that can be answered, the one with
the greatest priority, and of equals the first.

* `NegotiationSettings` — prohibited schemes and the fallback;
* `Registry.Draft`, `Registry.Draft.build` — making a registry;
* `Registry.candidates`, `Registry.select` — the authenticators for a list of challenges;
* `Registry.negotiate` — from challenges to at most one credential.
-/

namespace Countersign

open Program Text

/-- Prohibited schemes and the fallback. -/
structure NegotiationSettings where
  /-- Schemes that are never answered. -/
  prohibited : List String := ["Basic", "Digest"]
  /-- The scheme that is tried when no challenge can be answered. -/
  fallback : Option String := none
deriving DecidableEq, Repr, Inhabited

/-- Which provider answers which scheme. -/
structure Registry where
  /-- Providers by scheme in small letters. -/
  providers : Table Provider := .empty
  fallback : Option String := none

namespace Registry

/-! ## Building -/

/-- A registry in the making. -/
structure Draft where
  /-- In the order in which they were added. -/
  providers : List Provider := []
  prohibited : List String := []
  fallback : Option String := none

namespace Draft

def ofSettings (s : NegotiationSettings) : Draft :=
  { prohibited := s.prohibited, fallback := s.fallback }

def withProvider (d : Draft) (p : Provider) : Draft := { d with providers := d.providers ++ [p] }

def withProhibited (d : Draft) (schemes : List String) : Draft := { d with prohibited := schemes }

def withFallback (d : Draft) (scheme : Option String) : Draft := { d with fallback := scheme }

def prohibits (d : Draft) (scheme : String) : Bool :=
  d.prohibited.any fun p => sameLetters p scheme

end Draft

/-- Puts a provider under all its schemes that are not prohibited, in place of earlier ones. -/
def register (d : Draft) (table : Table Provider) (p : Provider) : Table Provider :=
  p.schemes.toList.foldl (fun t scheme =>
    if d.prohibits scheme then t else t.insert (lower scheme) p) table

/-- Fixes a draft: a later provider takes the schemes that it shares with an earlier one. -/
def Draft.build (d : Draft) : Registry :=
  { providers := d.providers.foldl (register d) .empty, fallback := d.fallback }

theorem forall_register {P : Provider → Prop} (d : Draft) {p : Provider} (hp : P p)
    {table : Table Provider} (ht : ∀ e ∈ table.entries, P e.2) :
    ∀ e ∈ (register d table p).entries, P e.2 := by
  unfold register
  generalize p.schemes.toList = names
  induction names generalizing table with
  | nil => exact ht
  | cons name names ih =>
      refine ih ?_
      dsimp only
      split
      · exact ht
      · exact Table.forall_alter ht fun _ => hp

/-- What holds of the providers of a draft holds of those of its registry. -/
theorem forall_build {P : Provider → Prop} {d : Draft} (h : ∀ p ∈ d.providers, P p) :
    ∀ e ∈ d.build.providers.entries, P e.2 := by
  have hall : ∀ (ps : List Provider) (table : Table Provider), (∀ p ∈ ps, P p) →
      (∀ e ∈ table.entries, P e.2) → ∀ e ∈ (ps.foldl (register d) table).entries, P e.2 := by
    intro ps
    induction ps with
    | nil => exact fun table _ ht => ht
    | cons p ps ih =>
        intro table hps ht
        exact ih _ (fun q hq => hps q (.tail _ hq)) (forall_register d (hps p (.head _)) ht)
  exact hall d.providers .empty h Table.forall_empty

/-! ## Looking up -/

/-- The registered schemes in small letters. -/
def schemes (r : Registry) : List String := r.providers.names

def provider? (r : Registry) (scheme : String) : Option Provider :=
  r.providers.find? (lower scheme)

def isRegistered (r : Registry) (scheme : String) : Bool := (r.provider? scheme).isSome

/-! ## Negotiating -/

def algorithmsParameter : String := "algs"

/-- The proof algorithms that challenges advertise. -/
def algorithms (cs : List Challenge) : Names :=
  Names.ofList (cs.flatMap fun c => ((c.parameter algorithmsParameter).map words).getD [])

/-- The authenticator for a challenge, if its scheme is registered and supported by the session and
its provider accepts it. -/
def answer? (r : Registry) (s : Session) (c : Challenge) : Option Authenticator := do
  let p ← r.provider? c.scheme
  if s.supports c.scheme then (p.authenticator c).toOption else none

/-- The authenticators for a list of challenges, in their order. -/
def candidates (r : Registry) (s : Session) (cs : List Challenge) : List Authenticator :=
  cs.filterMap (r.answer? s)

/-- The authenticator for the bare challenge of the fallback. -/
def fallback? (r : Registry) (s : Session) : Option Authenticator :=
  r.fallback.bind fun scheme => r.answer? s ⟨scheme, .empty⟩

/-- The first authenticator among those of greatest priority. -/
def best : List Authenticator → Option Authenticator
  | [] => none
  | a :: as =>
    match best as with
    | none => some a
    -- of equal priorities the first stays
    | some b => if a.priority < b.priority then some b else some a

/-- The authenticator that runs for a list of challenges. -/
def select (r : Registry) (s : Session) (cs : List Challenge) : Option Authenticator :=
  match r.candidates s cs with
  | [] => r.fallback? s
  | as => best as

theorem best_mem {as : List Authenticator} {a : Authenticator} (h : best as = some a) : a ∈ as := by
  induction as generalizing a with
  | nil => cases h
  | cons b as ih =>
      unfold best at h
      cases hbest : best as with
      | none =>
          rw [hbest] at h
          cases h
          exact .head _
      | some d =>
          simp only [hbest] at h
          split at h
          · cases h
            exact .tail _ (ih hbest)
          · cases h
            exact .head _

/-- The authenticator that runs answers a challenge for its provider. -/
theorem exists_provider_of_select {r : Registry} {s : Session} {cs : List Challenge}
    {a : Authenticator} (h : r.select s cs = some a) :
    ∃ e ∈ r.providers.entries, ∃ c, e.2.authenticator c = .ok a := by
  have hanswer : ∃ c, r.answer? s c = some a := by
    unfold select at h
    split at h
    · rcases Option.bind_eq_some_iff.1 h with ⟨scheme, _, hbare⟩
      exact ⟨_, hbare⟩
    · rcases List.mem_filterMap.1 (best_mem h) with ⟨c, _, hc⟩
      exact ⟨c, hc⟩
  rcases hanswer with ⟨c, hc⟩
  rcases Option.bind_eq_some_iff.1 hc with ⟨p, hp, hrest⟩
  split at hrest
  · rcases List.lookup_eq_some_iff.1 hp with ⟨l₁, l₂, hl, _⟩
    refine ⟨(lower c.scheme, p), by simp [hl], c, ?_⟩
    cases hok : p.authenticator c with
    | error e =>
        rw [hok] at hrest
        cases hrest
    | ok b =>
        rw [hok] at hrest
        cases hrest
        rfl
  · cases hrest

/-- Runs the selected authenticator; without one there is no credential. -/
def negotiate (r : Registry) (s : Session) (request : Request) (cs : List Challenge) :
    Run (Except AuthError (Option Credential)) :=
  match r.select s cs with
  | none => done (.ok none)
  | some a => s.authenticate a request (algorithms cs)

end Registry
end Countersign
