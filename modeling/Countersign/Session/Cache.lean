import Countersign.Credential

/-!
# Negotiated credentials by resource

A session keeps what it negotiated under the URI of the resource, without the fragment.  The
cache is a map: the last writer of a key wins, and nothing leaves it but by an operation.  With
no capacity or no lifetime it keeps nothing.

* `CacheSettings` — capacity and lifetime;
* `CredentialCache` — the map;
* `CredentialCache.key` — the URI of a resource as a key.
-/

namespace Countersign

structure CacheSettings where
  maxEntries : Nat := 1000
  lifetime : Nat := 300
deriving DecidableEq, Repr, Inhabited

namespace CacheSettings

/-- The longest lifetime that a cache can be built with: a thousand years. -/
def maxLifetime : Nat := 31536000000

/-- Whether a cache can be built. -/
def isBuildable (s : CacheSettings) : Bool := s.lifetime ≤ maxLifetime

def keeps (s : CacheSettings) : Bool := s.maxEntries != 0 && s.lifetime != 0

end CacheSettings

/-- A map from keys to values of which the last put under a key counts. -/
structure Keyed (α : Type) where
  /-- Whether puts have an effect. -/
  keeps : Bool := true
  entries : List (String × α) := []

namespace Keyed

variable {α : Type}

def find? (m : Keyed α) (key : String) : Option α := m.entries.lookup key

def erase (m : Keyed α) (key : String) : Keyed α :=
  { m with entries := m.entries.filter fun e => e.1 != key }

def insert (m : Keyed α) (key : String) (value : α) : Keyed α :=
  if m.keeps then { m with entries := (key, value) :: (m.erase key).entries } else m

/-- Without any entry. -/
def clear (m : Keyed α) : Keyed α := { m with entries := [] }

theorem find?_insert_self {m : Keyed α} (h : m.keeps = true) (key : String) (value : α) :
    (m.insert key value).find? key = some value := by
  simp [find?, insert, h]

theorem keeps_insert (m : Keyed α) (key : String) (value : α) :
    (m.insert key value).keeps = m.keeps := by
  unfold insert
  split
  · rfl
  · rfl

theorem find?_erase_self (m : Keyed α) (key : String) : (m.erase key).find? key = none := by
  refine List.lookup_eq_none_iff.2 ?_
  intro e he
  have hne := (List.mem_filter.1 he).2
  rwa [bne_comm] at hne

theorem find?_clear (m : Keyed α) (key : String) : m.clear.find? key = none := rfl

theorem lookup_filter_ne {key other : String} (h : key ≠ other) (l : List (String × α)) :
    (l.filter fun e => e.1 != other).lookup key = l.lookup key := by
  induction l with
  | nil => rfl
  | cons e l ih =>
    rcases e with ⟨name, value⟩
    rw [List.filter_cons, List.lookup_cons]
    by_cases hname : name = other
    · have hk : (key == name) = false := by
        simpa [hname] using h
      have hdrop : (name != other) = false := by
        simpa using hname
      rw [hk]
      simpa [hdrop] using ih
    · have hne : (name != other) = true := by
        simpa using hname
      rw [if_pos hne, List.lookup_cons, ih]

theorem find?_erase_ne {m : Keyed α} {key other : String} (h : key ≠ other) :
    (m.erase other).find? key = m.find? key :=
  lookup_filter_ne h m.entries

theorem find?_insert_ne {m : Keyed α} {key other : String} (h : key ≠ other) (value : α) :
    (m.insert other value).find? key = m.find? key := by
  unfold insert
  split
  · have hk : (key == other) = false := by simpa using h
    simp only [find?, List.lookup_cons, hk]
    exact find?_erase_ne h
  · rfl

end Keyed

/-- The credentials of a session by the URI of their resource. -/
abbrev CredentialCache := Keyed Credential

namespace CredentialCache

/-- A cache within bounds. -/
def ofSettings (s : CacheSettings) : CredentialCache := { keeps := s.keeps }

/-- The key of a resource: its URI without fragment. -/
def key (uri : Url) : String := uri.withoutFragment.toString

end CredentialCache
end Countersign
