/-!
# Parameters of header elements

A challenge and a link carry named values.  A name counts once: of several values under one name the
first is kept, and the names stay in the order in which they first occurred.

* `Parameters` — named values, each name once;
* `Parameters.add`, `Parameters.ofList` — the first value under a name is kept;
* `Parameters.same` — equality up to order.
-/

namespace Countersign

/-- Named values in the order in which their names first occurred. -/
structure Parameters where
  toList : List (String × String) := []
  nodup : (toList.map Prod.fst).Nodup := by exact List.Pairwise.nil
deriving DecidableEq, Repr

namespace Parameters

/-- No named values. -/
def empty : Parameters := {}

instance : Inhabited Parameters := ⟨empty⟩

/-- The value under a name; names are compared exactly. -/
def find? (ps : Parameters) (name : String) : Option String := ps.toList.lookup name

/-- The number of names. -/
def size (ps : Parameters) : Nat := ps.toList.length

/-- A name without a value is none of the names. -/
theorem not_mem_names {ps : Parameters} {name : String} (h : (ps.find? name).isSome = false) :
    name ∉ ps.toList.map Prod.fst := by
  have h' : ps.find? name = none := by simpa using h
  rw [find?, List.lookup_eq_none_iff] at h'
  intro hm
  obtain ⟨p, hp, rfl⟩ := List.mem_map.1 hm
  simpa using h' p hp

/-- Adds a value under a name, unless there is one. -/
def add (ps : Parameters) (name value : String) : Parameters :=
  if h : (ps.find? name).isSome then ps
  else
    ⟨ps.toList ++ [(name, value)], by
      rw [List.map_append, List.nodup_append]
      refine ⟨ps.nodup, by simp, fun a ha b hb => ?_⟩
      -- only the new name stands at the end, and it is none of the earlier ones
      rw [List.map_cons, List.map_nil, List.mem_singleton] at hb
      rintro rfl
      exact not_mem_names (by simpa using h) (hb ▸ ha)⟩

/-- The first value under each name of a list. -/
def ofList (l : List (String × String)) : Parameters :=
  l.foldl (fun ps p => ps.add p.1 p.2) empty

/-- The first value under each name of a list of texts. -/
def ofChars (l : List (List Char × List Char)) : Parameters :=
  ofList (l.map fun p => (String.ofList p.1, String.ofList p.2))

/-- The same names with the same values, in any order. -/
def same (a b : Parameters) : Bool :=
  a.size == b.size && a.toList.all fun p => b.find? p.1 == some p.2

theorem find?_add_self (ps : Parameters) (name value : String) :
    (ps.add name value).find? name = some ((ps.find? name).getD value) := by
  unfold add
  split
  · rename_i h
    obtain ⟨v, hv⟩ := Option.isSome_iff_exists.1 h
    simp [hv]
  · rename_i h
    have h' : ps.find? name = none := by simpa using h
    have h'' : ps.toList.lookup name = none := h'
    rw [h']
    simp [find?, List.lookup_append, h'']

theorem find?_add_ne (ps : Parameters) {name other : String} (h : other ≠ name) (value : String) :
    (ps.add name value).find? other = ps.find? other := by
  have hbeq : (other == name) = false := by simpa using h
  unfold add
  split
  · rfl
  · simp [find?, List.lookup_append, List.lookup_cons, hbeq]

end Parameters
end Countersign
