import Countersign.Uma.Provider
import Mathlib.Data.List.Nodup
import Mathlib.Data.List.Perm.Subperm

/-!
# Equal challenges — what they have in common

Two challenges are the same if their schemes agree up to letter case and their parameters agree up to
order.  Nothing that a negotiation reads of a challenge tells such challenges apart: it compares
schemes without regard to case, and looks up parameters by name.  This file defines:

* `Provider.Respects p` — a provider gives the same authenticator for equal challenges;
* `Registry.Respects r` — all providers of a registry do so.

`Challenge.same_equivalence` says that the comparison is an equivalence, and
`Registry.Respects.negotiate_eq` that equal challenges lead to one and the same negotiation, question
for question.
-/

namespace Countersign

open Program Text

/-! ## Parameters up to order -/

namespace Parameters

variable {ps qs : Parameters}

/-- The value under a name is the one that stands there, since each name stands once. -/
theorem find?_eq_some {name value : String} :
    ps.find? name = some value ↔ (name, value) ∈ ps.toList :=
  lookup_eq_some_iff_mem ps.nodup

/-- Parameters are the same exactly if one list is a reordering of the other. -/
theorem same_iff : ps.same qs = true ↔ ps.toList.Perm qs.toList := by
  simp only [same, size, Bool.and_eq_true, beq_iff_eq, List.all_eq_true, find?_eq_some]
  constructor
  · rintro ⟨hsize, hmem⟩
    have hnodup : ps.toList.Nodup := List.Nodup.of_map Prod.fst ps.nodup
    -- all of the one list is in the other, and that has no room for more
    have hsub : ps.toList.Subperm qs.toList := hnodup.subperm hmem
    exact hsub.perm_of_length_le (Nat.le_of_eq hsize.symm)
  · intro hperm
    exact ⟨hperm.length_eq, fun p hp => hperm.mem_iff.1 hp⟩

theorem find?_congr (h : ps.toList.Perm qs.toList) (name : String) :
    ps.find? name = qs.find? name := by
  ext value
  calc
    ps.find? name = some value ↔ (name, value) ∈ ps.toList := find?_eq_some
    _ ↔ (name, value) ∈ qs.toList := h.mem_iff
    _ ↔ qs.find? name = some value := find?_eq_some.symm

end Parameters

/-! ## Challenges -/

namespace Challenge

variable {c d : Challenge}

theorem same_iff :
    c.same d = true ↔
      lower c.scheme = lower d.scheme ∧ c.parameters.toList.Perm d.parameters.toList := by
  rw [same, Bool.and_eq_true, sameLetters_iff, Parameters.same_iff]

theorem same_equivalence : Equivalence fun c d : Challenge => c.same d = true where
  refl _ := same_iff.2 ⟨rfl, .refl _⟩
  symm h := same_iff.2 ⟨(same_iff.1 h).1.symm, (same_iff.1 h).2.symm⟩
  trans h h' :=
    same_iff.2 ⟨(same_iff.1 h).1.trans (same_iff.1 h').1, (same_iff.1 h).2.trans (same_iff.1 h').2⟩

theorem hashKey_congr (h : c.same d = true) : c.hashKey = d.hashKey := by
  rcases same_iff.1 h with ⟨hscheme, hparameters⟩
  rw [hashKey, hashKey, hscheme, Parameters.size, Parameters.size, hparameters.length_eq]

theorem lower_scheme_congr (h : c.same d = true) : lower c.scheme = lower d.scheme :=
  (same_iff.1 h).1

theorem isScheme_congr (h : c.same d = true) (scheme : String) :
    c.isScheme scheme = d.isScheme scheme := by
  rw [isScheme, isScheme, sameLetters, sameLetters, lower_scheme_congr h]

theorem parameter_congr (h : c.same d = true) (name : String) :
    c.parameter name = d.parameter name :=
  Parameters.find?_congr (same_iff.1 h).2 name

end Challenge

theorem Session.supports_congr (s : Session) {a b : String} (h : lower a = lower b) :
    s.supports a = s.supports b := by
  have hletters (x : String) : sameLetters x a = sameLetters x b := by
    rw [sameLetters, sameLetters, h]
  have huma : sameLetters a uma = sameLetters b uma := by
    rw [sameLetters, sameLetters, h]
  simp only [supports, huma, hletters]

/-! ## Providers -/

/-- Whether equal challenges get the same authenticator. What a challenge lacks may be worded with
its own spelling. -/
def Provider.Respects (p : Provider) : Prop :=
  ∀ c d : Challenge, c.same d = true →
    (p.authenticator c).toOption = (p.authenticator d).toOption

theorem IdToken.provider_respects : IdToken.provider.Respects := by
  intro c d hsame
  unfold provider
  dsimp only
  rw [Challenge.isScheme_congr hsame dpop, Challenge.isScheme_congr hsame bearer]
  -- neither scheme leaves only the refusals, which name the scheme as it was spelled
  split
  · rfl
  · split
    · rfl
    · rfl

theorem TicketChallenge.ofChallenge_congr {c d : Challenge} (hsame : c.same d = true) :
    (ofChallenge c).toOption = (ofChallenge d).toOption := by
  unfold ofChallenge
  rw [Challenge.isScheme_congr hsame uma, Challenge.parameter_congr hsame "as_uri",
    Challenge.parameter_congr hsame "ticket"]
  split
  · rfl
  · rfl

theorem TicketProvider.provider_respects (p : TicketProvider) : p.provider.Respects := by
  -- a provider gives an authenticator for the parts of a challenge, if it has them
  have hparts (c : Challenge) : (p.provider.authenticator c).toOption =
      (TicketChallenge.ofChallenge c).toOption.map p.authenticator := by
    unfold provider
    dsimp only
    cases TicketChallenge.ofChallenge c with
    | error e => rfl
    | ok t => rfl
  intro c d hsame
  rw [hparts, hparts, TicketChallenge.ofChallenge_congr hsame]

/-! ## Negotiations -/

namespace Registry

/-- Whether equal challenges get the same authenticators from a registry. -/
def Respects (r : Registry) : Prop := ∀ e ∈ r.providers.entries, e.2.Respects

theorem standard_respects (settings : NegotiationSettings) (tickets : TicketProvider) :
    (Registry.standard settings tickets).Respects := by
  refine forall_build ?_
  intro p hp
  simp only [Draft.ofSettings, Draft.withProvider, List.nil_append, List.cons_append,
    List.mem_cons, List.not_mem_nil, or_false] at hp
  rcases hp with rfl | rfl
  · exact IdToken.provider_respects
  · exact tickets.provider_respects

variable {r : Registry} {c d : Challenge} {cs ds : List Challenge}

/-- The scheme that a provider is looked up by does not depend on its spelling, and the provider does
not tell the challenges apart. -/
theorem Respects.answer?_eq (h : r.Respects) (s : Session) (hsame : c.same d = true) :
    r.answer? s c = r.answer? s d := by
  have hscheme := Challenge.lower_scheme_congr hsame
  have hprovider : r.provider? c.scheme = r.provider? d.scheme := by
    rw [provider?, provider?, hscheme]
  unfold answer?
  rw [hprovider, s.supports_congr hscheme]
  cases hfound : r.provider? d.scheme with
  | none => rfl
  | some p =>
      have hp : p.Respects := h (lower d.scheme, p) (Table.find?_eq_some.1 hfound)
      have hanswer := hp c d hsame
      simp [hanswer]

theorem Respects.candidates_eq (h : r.Respects) (s : Session)
    (hsame : List.Forall₂ (fun c d => Challenge.same c d = true) cs ds) :
    r.candidates s cs = r.candidates s ds := by
  induction hsame with
  | nil => rfl
  | cons hhead _ ih =>
      simp only [candidates, List.filterMap_cons, h.answer?_eq s hhead] at ih ⊢
      rw [ih]

theorem algorithms_congr (hsame : List.Forall₂ (fun c d => Challenge.same c d = true) cs ds) :
    algorithms cs = algorithms ds := by
  unfold algorithms
  congr 1
  induction hsame with
  | nil => rfl
  | cons hhead _ ih =>
      rw [List.flatMap_cons, List.flatMap_cons, Challenge.parameter_congr hhead, ih]

/-- Challenges that are pairwise equal lead to one and the same negotiation. -/
theorem Respects.negotiate_eq (h : r.Respects) (s : Session) (request : Request)
    (hsame : List.Forall₂ (fun c d => Challenge.same c d = true) cs ds) :
    r.negotiate s request cs = r.negotiate s request ds := by
  have hselect : r.select s cs = r.select s ds := by
    rw [select, select, h.candidates_eq s hsame]
  rw [negotiate, negotiate, hselect, algorithms_congr hsame]

end Registry
end Countersign
