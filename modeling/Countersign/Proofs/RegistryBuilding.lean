import Countersign.Proofs.Errands
import Countersign.Uma.Provider
import Mathlib.Data.List.Basic

/-!
# Registry building — who is asked, and who never is

A registry is built by calls in any order: providers are added one by one, and of the prohibited schemes
and the fallback the last ones given count.  What a registry looks up and whom a negotiation asks is
described here by what was given, without the tables that are made of it.

* `Registry.Call`, `Registry.after` — the calls to a builder, and what they lead to;
* `Registry.LastOffering` — the last provider that offers a scheme;
* `Registry.Asks` — a negotiation puts a challenge to a provider, and it depends on nothing else that
  providers would answer;
* `Registry.Honours` — a registry that has what was given and leaves out what was prohibited;
* `Registry.building` — every registry that is built is of this kind.
-/

namespace Countersign

open Program Text

namespace Registry

/-! ## Calls -/

/-- A call to a builder. -/
inductive Call where
  | provider (p : Provider)
  | prohibited (schemes : List String)
  | fallback (scheme : Option String)

namespace Call

def apply (d : Draft) : Call → Draft
  | provider p => d.withProvider p
  | prohibited schemes => d.withProhibited schemes
  | fallback scheme => d.withFallback scheme

def provider? : Call → Option Provider
  | provider p => some p
  | _ => none

def prohibited? : Call → Option (List String)
  | prohibited schemes => some schemes
  | _ => none

def fallback? : Call → Option (Option String)
  | fallback scheme => some scheme
  | _ => none

end Call

/-- The draft behind some calls to a builder with settings. -/
def after (settings : NegotiationSettings) (calls : List Call) : Draft :=
  calls.foldl Call.apply (.ofSettings settings)

/-- The providers that were given, in their order. -/
def givenProviders (calls : List Call) : List Provider := calls.filterMap Call.provider?

/-- The prohibited schemes that were given last. -/
def givenProhibited (settings : NegotiationSettings) (calls : List Call) : List String :=
  (calls.filterMap Call.prohibited?).getLast?.getD settings.prohibited

/-- The fallback that was given last. -/
def givenFallback (settings : NegotiationSettings) (calls : List Call) : Option String :=
  (calls.filterMap Call.fallback?).getLast?.getD settings.fallback

theorem after_eq (settings : NegotiationSettings) (calls : List Call) :
    after settings calls =
      ⟨givenProviders calls, givenProhibited settings calls, givenFallback settings calls⟩ := by
  -- a call adds to the providers of a draft, or replaces one of the other two
  have hfold : ∀ d : Draft, calls.foldl Call.apply d =
      ⟨d.providers ++ givenProviders calls,
        (calls.filterMap Call.prohibited?).getLast?.getD d.prohibited,
        (calls.filterMap Call.fallback?).getLast?.getD d.fallback⟩ := by
    induction calls with
    | nil => intro d; simp [givenProviders]
    | cons call calls ih =>
        intro d
        rw [List.foldl_cons, ih]
        cases call <;>
          simp [Call.apply, givenProviders, Draft.withProvider, Draft.withProhibited,
            Draft.withFallback, List.filterMap_cons, Call.provider?, Call.prohibited?,
            Call.fallback?, List.getLast?_cons]
  exact hfold _

/-! ## The last provider that offers a scheme -/

variable {r : Registry} {d : Draft} {p : Provider} {ps : List Provider} {key scheme : String}

/-- A provider offers a scheme, which is given in small letters. -/
def Offers (p : Provider) (key : String) : Prop := key ∈ p.schemes.toList.map lower

instance (p : Provider) (key : String) : Decidable (Offers p key) :=
  inferInstanceAs (Decidable (key ∈ p.schemes.toList.map lower))

/-- Of some providers one is the last that offers a scheme. -/
def LastOffering (ps : List Provider) (key : String) (p : Provider) : Prop :=
  ∃ before behind, ps = before ++ p :: behind ∧ Offers p key ∧ ∀ q ∈ behind, ¬ Offers q key

def lastOffering (ps : List Provider) (key : String) : Option Provider :=
  ps.reverse.find? fun p => decide (Offers p key)

theorem lastOffering_cons (p : Provider) (ps : List Provider) (key : String) :
    lastOffering (p :: ps) key =
      (lastOffering ps key).or (if Offers p key then some p else none) := by
  rw [lastOffering, List.reverse_cons, List.find?_append]
  by_cases hp : Offers p key <;> simp [lastOffering, hp]

theorem lastOffering_eq_some : lastOffering ps key = some p ↔ LastOffering ps key p := by
  rw [lastOffering, List.find?_eq_some_iff_append]
  constructor
  · rintro ⟨hoffers, behind, before, hsplit, hnone⟩
    refine ⟨before.reverse, behind.reverse, ?_, by simpa using hoffers, ?_⟩
    · rw [← List.reverse_reverse ps, hsplit]
      simp
    · exact fun q hq => by simpa using hnone q (List.mem_reverse.1 hq)
  · rintro ⟨before, behind, rfl, hoffers, hnone⟩
    refine ⟨by simpa using hoffers, behind.reverse, before.reverse, by simp, ?_⟩
    exact fun q hq => by simpa using hnone q (List.mem_reverse.1 hq)

theorem lastOffering_isSome : (lastOffering ps key).isSome = true ↔ ∃ p ∈ ps, Offers p key := by
  simp [lastOffering]

/-! ## Looking up -/

theorem prohibits_iff : d.prohibits scheme = true ↔ lower scheme ∈ d.prohibited.map lower := by
  simp [Draft.prohibits, sameLetters_iff]

/-- A provider takes the schemes that it offers and that are not prohibited. -/
theorem find?_register (d : Draft) (t : Table Provider) (p : Provider) (key : String) :
    (register d t p).find? key =
      if Offers p key ∧ key ∉ d.prohibited.map lower then some p else t.find? key := by
  have hfold : ∀ (names : List String) (t : Table Provider),
      (names.foldl (fun t n => if d.prohibits n then t else t.insert (lower n) p) t).find? key =
        if key ∈ names.map lower ∧ key ∉ d.prohibited.map lower then some p else t.find? key := by
    intro names
    induction names with
    | nil => intro t; simp
    | cons n names ih =>
        intro t
        have hn : d.prohibits n = true ↔ lower n ∈ d.prohibited.map lower := prohibits_iff
        rw [List.foldl_cons, ih]
        by_cases hp : d.prohibits n = true
        · -- the scheme is left out, and would not be found either
          rw [if_pos hp]
          grind
        · rw [if_neg hp, Table.find?_insert]
          grind
  exact hfold p.schemes.toList t

/-- A scheme that is not prohibited is found with the last provider that offers it. -/
theorem find?_build (d : Draft) (key : String) :
    d.build.providers.find? key =
      if key ∈ d.prohibited.map lower then none else lastOffering d.providers key := by
  have hfold : ∀ (ps : List Provider) (t : Table Provider), (ps.foldl (register d) t).find? key =
      if key ∈ d.prohibited.map lower then t.find? key
      else (lastOffering ps key).or (t.find? key) := by
    -- what a table holds is found unless one of the providers to come takes its place
    intro ps
    induction ps with
    | nil => intro t; simp [lastOffering]
    | cons p ps ih =>
        intro t
        rw [List.foldl_cons, ih, find?_register, lastOffering_cons]
        by_cases hk : key ∈ d.prohibited.map lower <;> by_cases hp : Offers p key <;> simp [hk, hp]
  have hbuild : d.build.providers.find? key =
      if key ∈ d.prohibited.map lower then none else (lastOffering d.providers key).or none :=
    hfold d.providers .empty
  rw [hbuild, Option.or_none]

/-! ## Asking -/

variable {s : Session} {cs : List Challenge} {c : Challenge}

/-- A negotiation puts a challenge to a provider: one of the challenges whose scheme the provider is
registered for and the session supports, or else the bare challenge of the fallback. -/
inductive Asks (r : Registry) (s : Session) (cs : List Challenge) : Provider → Challenge → Prop where
  | challenged {c : Challenge} {p : Provider} (hc : c ∈ cs) (hp : r.provider? c.scheme = some p)
      (hs : s.supports c.scheme = true) : Asks r s cs p c
  | fallback {scheme : String} {p : Provider} (hnone : r.candidates s cs = [])
      (hscheme : r.fallback = some scheme) (hp : r.provider? scheme = some p)
      (hs : s.supports scheme = true) : Asks r s cs p ⟨scheme, .empty⟩

/-- A registry with other providers in the place of its own. -/
structure Recast (f : Provider → Provider) (r r' : Registry) : Prop where
  providers : ∀ key, r'.providers.find? key = (r.providers.find? key).map f
  fallback : r'.fallback = r.fallback

theorem Recast.answer?_eq {f : Provider → Provider} {r' : Registry} (h : Recast f r r')
    (hc : ∀ p, r.provider? c.scheme = some p → s.supports c.scheme = true →
      (f p).authenticator c = p.authenticator c) :
    r'.answer? s c = r.answer? s c := by
  have hprovider : r'.provider? c.scheme = (r.provider? c.scheme).map f := h.providers _
  unfold answer?
  rw [hprovider]
  cases hp : r.provider? c.scheme with
  | none => rfl
  | some p =>
      cases hs : s.supports c.scheme with
      | false => rfl
      | true =>
          have hsame := hc p hp hs
          simp [hsame]

/-- A negotiation depends on its providers by what they answer when they are asked. -/
theorem Recast.negotiate_eq {f : Provider → Provider} {r' : Registry} (h : Recast f r r')
    (hasks : ∀ p c, Asks r s cs p c → (f p).authenticator c = p.authenticator c) (request : Request) :
    r'.negotiate s request cs = r.negotiate s request cs := by
  have hcandidates : r'.candidates s cs = r.candidates s cs :=
    List.filterMap_congr fun c hc => h.answer?_eq fun p hp hs => hasks p c (.challenged hc hp hs)
  have hselect : r'.select s cs = r.select s cs := by
    unfold select
    rw [hcandidates]
    split
    · -- nothing can be answered, so the fallback is tried in both
      rename_i hnone
      unfold fallback?
      rw [h.fallback]
      refine Option.bind_congr fun scheme hscheme => ?_
      exact h.answer?_eq fun p hp hs => hasks p _ (.fallback hnone hscheme hp hs)
    · rfl
  rw [Registry.negotiate_eq, Registry.negotiate_eq, hselect]

/-! ## What is built -/

/-- A registry has the providers that were given, but for the prohibited schemes, and the fallback. -/
structure Honours (r : Registry) (ps : List Provider) (prohibited : List String)
    (fallback : Option String) : Prop where
  /-- A scheme in any spelling has the last provider that offers it, unless it is prohibited. -/
  found : ∀ scheme p, r.provider? scheme = some p ↔
    lower scheme ∉ prohibited.map lower ∧ LastOffering ps (lower scheme) p
  registered : ∀ scheme, r.isRegistered scheme = true ↔
    lower scheme ∉ prohibited.map lower ∧ ∃ p ∈ ps, Offers p (lower scheme)
  listed : ∀ key, key ∈ r.schemes ↔ key ∉ prohibited.map lower ∧ ∃ p ∈ ps, Offers p key
  fallback : r.fallback = fallback
  /-- A provider is asked only for schemes that are not prohibited, and that no later one offers. -/
  asks : ∀ s cs p c, Asks r s cs p c →
    lower c.scheme ∉ prohibited.map lower ∧ LastOffering ps (lower c.scheme) p

theorem find?_build_eq_some : d.build.providers.find? key = some p ↔
    key ∉ d.prohibited.map lower ∧ LastOffering d.providers key p := by
  rw [find?_build, ← lastOffering_eq_some]
  split <;> simp [*]

theorem build_honours (d : Draft) : Honours d.build d.providers d.prohibited d.fallback := by
  have hfound : ∀ scheme p, d.build.provider? scheme = some p ↔
      lower scheme ∉ d.prohibited.map lower ∧ LastOffering d.providers (lower scheme) p :=
    fun scheme p => find?_build_eq_some
  have hsome : ∀ key, (d.build.providers.find? key).isSome = true ↔
      key ∉ d.prohibited.map lower ∧ ∃ p ∈ d.providers, Offers p key := by
    intro key
    rw [find?_build, ← lastOffering_isSome]
    split <;> simp [*]
  refine ⟨hfound, fun scheme => hsome _, ?_, rfl, ?_⟩
  · intro key
    rw [← hsome, schemes, Table.names, List.mem_map, Option.isSome_iff_exists]
    constructor
    · rintro ⟨e, he, rfl⟩
      exact ⟨e.2, Table.find?_eq_some.2 he⟩
    · rintro ⟨p, hp⟩
      exact ⟨_, Table.find?_eq_some.1 hp, rfl⟩
  · intro s cs p c h
    cases h with
    | challenged _ hp _ => exact (hfound _ _).1 hp
    | fallback _ _ hp _ => exact (hfound _ _).1 hp

/-- Registries in which the same is found are equal. -/
theorem ext_find {r r' : Registry} (h : ∀ key, r.providers.find? key = r'.providers.find? key)
    (hfallback : r.fallback = r'.fallback) : r = r' := by
  have hproviders : r.providers = r'.providers := Table.ext h
  cases r
  cases r'
  cases hproviders
  cases hfallback
  rfl

/-- Of the prohibited schemes only their letters count, and neither their case nor their order. -/
theorem build_congr {d d' : Draft} (hps : d'.providers = d.providers)
    (hprohibited : ∀ key, key ∈ d'.prohibited.map lower ↔ key ∈ d.prohibited.map lower)
    (hfallback : d'.fallback = d.fallback) : d'.build = d.build := by
  refine ext_find (fun key => ?_) hfallback
  simp only [find?_build, hps, hprohibited]

/-- Providers can be replaced in a draft before it is fixed, as well as behind. -/
theorem recast_build {f : Provider → Provider} (hf : ∀ p, (f p).schemes = p.schemes) {d d' : Draft}
    (hps : d'.providers = d.providers.map f) (hprohibited : d'.prohibited = d.prohibited)
    (hfallback : d'.fallback = d.fallback) : Recast f d.build d'.build := by
  refine ⟨fun key => ?_, hfallback⟩
  -- whoever is replaced offers the same, and so the last one is found at the same place
  have hlast : lastOffering (d.providers.map f) key = (lastOffering d.providers key).map f := by
    have hoffers : (fun p => decide (Offers p key)) ∘ f = fun p => decide (Offers p key) := by
      funext p
      simp [Offers, hf]
    rw [lastOffering, ← List.map_reverse, List.find?_map, hoffers, lastOffering]
  rw [find?_build, find?_build, hps, hprohibited, hlast]
  split <;> rfl

namespace Call

/-- The call with another provider. -/
def recast (f : Provider → Provider) : Call → Call
  | provider p => provider (f p)
  | prohibited schemes => prohibited schemes
  | fallback scheme => fallback scheme

end Call

theorem givenProviders_recast (f : Provider → Provider) (calls : List Call) :
    givenProviders (calls.map (Call.recast f)) = (givenProviders calls).map f := by
  rw [givenProviders, givenProviders, List.filterMap_map, List.map_filterMap]
  refine congrArg (List.filterMap · calls) (funext fun call => ?_)
  cases call <;> rfl

theorem givenProhibited_recast (f : Provider → Provider) (settings : NegotiationSettings)
    (calls : List Call) :
    givenProhibited settings (calls.map (Call.recast f)) = givenProhibited settings calls := by
  have hsame : Call.prohibited? ∘ Call.recast f = Call.prohibited? := by
    funext call
    cases call <;> rfl
  rw [givenProhibited, List.filterMap_map, hsame, givenProhibited]

theorem givenFallback_recast (f : Provider → Provider) (settings : NegotiationSettings)
    (calls : List Call) :
    givenFallback settings (calls.map (Call.recast f)) = givenFallback settings calls := by
  have hsame : Call.fallback? ∘ Call.recast f = Call.fallback? := by
    funext call
    cases call <;> rfl
  rw [givenFallback, List.filterMap_map, hsame, givenFallback]

/-- However the calls to a builder are ordered, its registry has a provider for a scheme exactly if the
scheme is not prohibited and some provider offers it, and then the last one.  No provider is ever asked for
a prohibited scheme: a negotiation is the same whatever the providers would answer where they are not
asked. -/
theorem building (settings : NegotiationSettings) (calls : List Call) :
    Honours (after settings calls).build (givenProviders calls) (givenProhibited settings calls)
      (givenFallback settings calls) ∧
    (∀ settings' calls', givenProviders calls' = givenProviders calls →
      (∀ key, key ∈ (givenProhibited settings' calls').map lower ↔
        key ∈ (givenProhibited settings calls).map lower) →
      givenFallback settings' calls' = givenFallback settings calls →
        (after settings' calls').build = (after settings calls).build) ∧
    ∀ f : Provider → Provider, (∀ p, (f p).schemes = p.schemes) → ∀ s cs,
      (∀ p c, Asks (after settings calls).build s cs p c → (f p).authenticator c = p.authenticator c) →
        ∀ request, (after settings (calls.map (Call.recast f))).build.negotiate s request cs =
          (after settings calls).build.negotiate s request cs := by
  refine ⟨?_, ?_, ?_⟩
  · rw [after_eq]
    exact build_honours _
  · intro settings' calls' hps hprohibited hfallback
    rw [after_eq, after_eq]
    exact build_congr hps hprohibited hfallback
  · intro f hf s cs hasks request
    have hrecast : Recast f (after settings calls).build
        (after settings (calls.map (Call.recast f))).build := by
      rw [after_eq, after_eq]
      exact recast_build hf (givenProviders_recast f calls) (givenProhibited_recast f settings calls)
        (givenFallback_recast f settings calls)
    exact hrecast.negotiate_eq hasks request

example (settings : NegotiationSettings) (tickets : TicketProvider) :
    Registry.standard settings tickets =
      (after settings [.provider IdToken.provider, .provider tickets.provider]).build := rfl

/-! ### Two desks -/

namespace Desk

/-- Takes every challenge, and fails in its own name. -/
def provider (name : String) (schemes : List String) : Provider where
  schemes := Names.ofList schemes
  authenticator _ := .ok ⟨name, 0, fun _ _ _ => done (.error (.negotiation name))⟩

/-- The same but for challenges for bearer tokens, which are refused. -/
def deaf (p : Provider) : Provider where
  schemes := p.schemes
  authenticator c :=
    if lower c.scheme = "bearer" then .error (.invalidChallenge "unheard") else p.authenticator c

/-- The second desk takes tickets over from the first one, and bearer tokens end up prohibited. -/
def calls : List Call :=
  [.fallback (some "BEARER"), .provider (provider "first" ["Bearer", "UMA"]), .prohibited ["UMA"],
    .provider (provider "second" ["uma"]), .prohibited ["Digest", "bearer"]]

/-- The same calls in another order, with the prohibited schemes in other letters. -/
def shuffled : List Call :=
  [.provider (provider "first" ["Bearer", "UMA"]), .prohibited ["BEARER", "dIGEST"],
    .provider (provider "second" ["uma"]), .fallback (some "BEARER")]

def visitor : Session := ⟨0, "visitor", .openId default false⟩

/-- Challenges for bearer tokens alone. -/
def refusal : List Challenge := [⟨"bearer", .empty⟩, ⟨"BeArEr", .empty⟩]

end Desk

theorem building_desks :
    ((after {} Desk.calls).build.isRegistered "Uma" = true ∧
      ¬ (after {} Desk.calls).build.isRegistered "bEARER" = true) ∧
    (after {} Desk.shuffled).build = (after {} Desk.calls).build ∧
    (Desk.visitor.supports "bearer" = true ∧
      (after {} (Desk.calls.map (Call.recast Desk.deaf))).build.negotiate Desk.visitor
          (.get { scheme := "urn", path := "desk" }) Desk.refusal =
        (after {} Desk.calls).build.negotiate Desk.visitor
          (.get { scheme := "urn", path := "desk" }) Desk.refusal) := by
  have hbuilt := building {} Desk.calls
  refine ⟨⟨?_, ?_⟩, ?_, by decide +kernel, ?_⟩
  · exact (hbuilt.1.registered "Uma").2 ⟨by decide +kernel, _, .tail _ (.head _), by decide +kernel⟩
  · exact fun h => absurd ((hbuilt.1.registered "bEARER").1 h).1 (by decide +kernel)
  · have hletters : ∀ key, key ∈ (givenProhibited {} Desk.shuffled).map lower ↔
        key ∈ (givenProhibited {} Desk.calls).map lower := by
      intro key
      have hshuffled : (givenProhibited {} Desk.shuffled).map lower = ["bearer", "digest"] := by
        decide +kernel
      have hcalls : (givenProhibited {} Desk.calls).map lower = ["digest", "bearer"] := by
        decide +kernel
      simp [hshuffled, hcalls, or_comm]
    exact hbuilt.2.1 {} Desk.shuffled rfl hletters rfl
  · refine hbuilt.2.2 Desk.deaf (fun _ => rfl) _ _ (fun p c h => ?_) _
    have hallowed := (hbuilt.1.asks _ _ p c h).1
    have hbearer : lower c.scheme ≠ "bearer" := by
      intro hsame
      rw [hsame] at hallowed
      exact hallowed (by decide +kernel)
    exact if_neg hbearer

end Registry
end Countersign
