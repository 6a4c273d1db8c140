import Countersign.Session.Cache
import Mathlib.Data.List.DropRight

/-!
# Resource keys — what a cache takes for one resource

A fragment is no part of what a server answers for, so a cache files a credential under the written form
of a URI without its fragment.  An opaque path that nothing follows any more also loses the blanks at its
end, since they would be lost when the key is read as a URI again.  This file says without keys when two
URIs name one resource:

* `Url.bare` — the written form without the fragment;
* `Url.Alike` — without their fragments, and such blanks apart, two URIs are written in the same way;
* `Url.alike_iff` — these are the URIs with one key.
-/

namespace Countersign

namespace Url

/-- The written form without the fragment. -/
def bare (u : Url) : String := ({ u with fragment := none } : Url).toString

/-- The blanks at the end of an opaque path that nothing but a fragment follows. -/
def endBlanks (u : Url) : String :=
  if u.isFixed && u.query.isNone then
    String.ofList (u.path.toList.reverse.takeWhile (· == ' ')).reverse
  else ""

/-- Without their fragments, and without blanks at the end of an opaque path, two URIs are written in the
same way. -/
def Alike (u v : Url) : Prop :=
  ∃ text, u.bare = text ++ u.endBlanks ∧ v.bare = text ++ v.endBlanks

theorem ofList_reverse_dropWhile_append (p : Char → Bool) (path : String) :
    String.ofList (path.toList.reverse.dropWhile p).reverse ++
      String.ofList (path.toList.reverse.takeWhile p).reverse = path := by
  rw [← String.ofList_append, ← List.reverse_append, List.takeWhile_append_dropWhile,
    List.reverse_reverse, String.ofList_toList]

/-- An opaque path is written as it is. -/
theorem toString_of_isFixed {u : Url} (hfixed : u.isFixed = true) (hquery : u.query = none)
    (hfragment : u.fragment = none) : u.toString = u.scheme ++ ":" ++ u.path := by
  rw [isFixed, Bool.and_eq_true, Option.isNone_iff_eq_none] at hfixed
  have hslashes : (u.path.toList.take 2 == ['/', '/']) = false := by
    cases hpath : u.path.toList with
    | nil => rfl
    | cons c cs =>
        have hc : c ≠ '/' := by simpa [hpath] using hfixed.2
        simp [hc]
  simp [toString, beforeQuery, hquery, hfragment, hfixed.1, hslashes]

theorem withoutFragment_of_loose {u : Url} (h : (u.isFixed && u.query.isNone) = true) :
    u.withoutFragment = { u with
      path := String.ofList (u.path.toList.reverse.dropWhile (· == ' ')).reverse, fragment := none } := by
  rw [withoutFragment, trimFixedPath, if_pos]
  rw [Bool.and_eq_true]
  exact ⟨h, rfl⟩

/-- A path that has lost the blanks at its end is still opaque. -/
theorem isFixed_withoutFragment {u : Url} (h : (u.isFixed && u.query.isNone) = true) :
    u.withoutFragment.isFixed = true := by
  rw [withoutFragment_of_loose h]
  rw [Bool.and_eq_true, isFixed, Bool.and_eq_true] at h
  rw [isFixed, Bool.and_eq_true]
  refine ⟨h.1.1, ?_⟩
  -- what is left of the path begins as the whole path does
  have hprefix := List.rdropWhile_prefix (· == ' ') u.path.toList
  cases hpath : (u.path.toList.reverse.dropWhile (· == ' ')).reverse with
  | nil => rfl
  | cons c cs =>
      rw [List.rdropWhile, hpath] at hprefix
      rcases hprefix with ⟨blanks, hblanks⟩
      have hc : (u.path.toList.head? != some '/') = true := h.1.2
      rw [← hblanks] at hc
      rwa [String.toList_ofList]

/-- A key is the written form without the fragment and the blanks before it. -/
theorem bare_eq (u : Url) : u.bare = CredentialCache.key u ++ u.endBlanks := by
  -- only an opaque path that nothing follows any more loses its blanks
  by_cases hloose : (u.isFixed && u.query.isNone) = true
  · have hparts := hloose
    rw [Bool.and_eq_true, Option.isNone_iff_eq_none] at hparts
    have hpath : u.withoutFragment.path ++ u.endBlanks = u.path := by
      rw [withoutFragment_of_loose hloose, endBlanks, if_pos hloose]
      exact ofList_reverse_dropWhile_append (· == ' ') u.path
    have hkey : CredentialCache.key u = u.scheme ++ ":" ++ u.withoutFragment.path := by
      have hquery : u.withoutFragment.query = none := by
        rw [withoutFragment_of_loose hloose]
        exact hparts.2
      rw [CredentialCache.key, toString_of_isFixed (isFixed_withoutFragment hloose) hquery
        (withoutFragment_fragment u), withoutFragment_of_loose hloose]
    calc
      u.bare = u.scheme ++ ":" ++ u.path :=
          toString_of_isFixed (u := { u with fragment := none }) hparts.1 hparts.2 rfl
      _ = u.scheme ++ ":" ++ (u.withoutFragment.path ++ u.endBlanks) := by rw [hpath]
      _ = u.scheme ++ ":" ++ u.withoutFragment.path ++ u.endBlanks := String.append_assoc.symm
      _ = CredentialCache.key u ++ u.endBlanks := by rw [hkey]
  · have hsame : u.withoutFragment = { u with fragment := none } := by
      rw [withoutFragment, trimFixedPath, if_neg]
      intro hall
      rw [Bool.and_eq_true] at hall
      exact hloose hall.1
    rw [bare, CredentialCache.key, hsame, endBlanks, if_neg hloose, String.append_empty]

theorem alike_iff {u v : Url} :
    u.Alike v ↔ CredentialCache.key u = CredentialCache.key v := by
  constructor
  · rintro ⟨text, hu, hv⟩
    rw [bare_eq] at hu hv
    have hu' := String.append_left_inj _ |>.1 hu
    have hv' := String.append_left_inj _ |>.1 hv
    rw [hu', hv']
  · intro hkey
    exact ⟨CredentialCache.key v, by rw [bare_eq, hkey], bare_eq v⟩

theorem Alike.refl (u : Url) : u.Alike u := alike_iff.2 rfl

theorem Alike.trans {u v w : Url} (h : u.Alike v) (h' : v.Alike w) : u.Alike w :=
  alike_iff.2 ((alike_iff.1 h).trans (alike_iff.1 h'))

end Url

end Countersign
