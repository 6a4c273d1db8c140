/-!
# Ascending collections of names

Scheme names, access modes and audiences are reported in ascending order of their code points
and without repeats.  The order is part of the types, so two collections with the same content are
equal.

* `Names` — a finite set of names, with `Names.insert`, `Names.ofList`;
* `Names.ext` — sets with the same members are equal;
* `Table` — values under names, with `Table.alter`, `Table.insert`, `Table.find?`;
* `Table.find?_alter_self`, `Table.find?_alter_ne` — what is found after a change;
* `Table.find?_eq_some`, `Table.ext` — what is found is an entry, and there is nothing else to a table.
-/

namespace Countersign

/-! ## Ascending lists -/

/-- Inserts a name into an ascending list, unless it is there. -/
def insertAscending (a : String) : List String → List String
  | [] => [a]
  | b :: bs => if a = b then b :: bs else if a < b then a :: b :: bs else b :: insertAscending a bs

theorem mem_insertAscending {a x : String} {l : List String} :
    x ∈ insertAscending a l ↔ x = a ∨ x ∈ l := by
  induction l with
  | nil => simp [insertAscending]
  | cons b bs ih =>
    unfold insertAscending
    split
    · rename_i h; subst h; simp
    · split
      · simp
      · simp only [List.mem_cons, ih]
        grind

/-- Of two different names one is less than the other. -/
theorem lt_of_not_lt_of_ne {a b : String} (h : ¬ a < b) (hne : a ≠ b) : b < a :=
  Std.lt_of_le_of_ne h (Ne.symm hne)

theorem insertAscending_pairwise {a : String} {l : List String} (h : l.Pairwise (· < ·)) :
    (insertAscending a l).Pairwise (· < ·) := by
  induction l with
  | nil => simp [insertAscending]
  | cons b bs ih =>
    have hb := List.pairwise_cons.1 h
    unfold insertAscending
    split
    · exact h
    · rename_i hne
      split
      · -- the new name is the least
        rename_i hlt
        refine List.pairwise_cons.2 ⟨fun x hx => ?_, h⟩
        rcases List.mem_cons.1 hx with rfl | hx
        · exact hlt
        · exact String.lt_trans hlt (hb.1 x hx)
      · -- the new name comes later
        rename_i hlt
        refine List.pairwise_cons.2 ⟨fun x hx => ?_, ih hb.2⟩
        rcases mem_insertAscending.1 hx with rfl | hx
        · exact lt_of_not_lt_of_ne hlt hne
        · exact hb.1 x hx

/-- Lists with ascending names and the same members are equal. -/
theorem eq_of_pairwise_lt {α : Type} (name : α → String) {l m : List α}
    (hl : l.Pairwise fun x y => name x < name y) (hm : m.Pairwise fun x y => name x < name y)
    (h : ∀ x, x ∈ l ↔ x ∈ m) : l = m := by
  induction l generalizing m with
  | nil =>
    cases m with
    | nil => rfl
    | cons b bs => exact absurd ((h b).2 (by simp)) (by simp)
  | cons a as ih =>
    cases m with
    | nil => exact absurd ((h a).1 (by simp)) (by simp)
    | cons b bs =>
      have ha := List.pairwise_cons.1 hl
      have hb := List.pairwise_cons.1 hm
      -- the heads are equal, since each would have to come after the other
      have hab : a = b := by
        rcases List.mem_cons.1 ((h a).1 (by simp)) with hab | hab
        · exact hab
        · rcases List.mem_cons.1 ((h b).2 (by simp)) with hba | hba
          · exact hba.symm
          · exact absurd (String.lt_trans (ha.1 b hba) (hb.1 a hab)) (String.lt_irrefl (name a))
      subst hab
      refine congrArg (a :: ·) (ih ha.2 hb.2 fun x => ⟨fun hx => ?_, fun hx => ?_⟩)
      · rcases List.mem_cons.1 ((h x).1 (List.mem_cons_of_mem a hx)) with rfl | hx'
        · exact absurd (ha.1 x hx) (String.lt_irrefl (name x))
        · exact hx'
      · rcases List.mem_cons.1 ((h x).2 (List.mem_cons_of_mem a hx)) with rfl | hx'
        · exact absurd (hb.1 x hx) (String.lt_irrefl (name x))
        · exact hx'

/-! ## Sets of names -/

/-- A finite set of names, ascending by code points. -/
structure Names where
  /-- The names in ascending order, each once. -/
  toList : List String := []
  ascending : toList.Pairwise (· < ·) := by exact List.Pairwise.nil
deriving DecidableEq, Repr

namespace Names

/-- The set without names. -/
def empty : Names := {}

instance : Inhabited Names := ⟨empty⟩

/-- Adds a name. -/
def insert (a : String) (s : Names) : Names :=
  ⟨insertAscending a s.toList, insertAscending_pairwise s.ascending⟩

def ofList (l : List String) : Names := l.foldl (fun s a => s.insert a) empty

def insertAll (l : List String) (s : Names) : Names := l.foldl (fun s a => s.insert a) s

instance : Membership String Names := ⟨fun s a => a ∈ s.toList⟩

instance (a : String) (s : Names) : Decidable (a ∈ s) :=
  inferInstanceAs (Decidable (a ∈ s.toList))

/-- Whether a name belongs to the set. -/
def contains (s : Names) (a : String) : Bool := s.toList.contains a

/-- Whether the set has no names. -/
def isEmpty (s : Names) : Bool := s.toList.isEmpty

/-- Sets with the same members are equal. -/
theorem ext {s t : Names} (h : ∀ x, x ∈ s ↔ x ∈ t) : s = t := by
  obtain ⟨l, hl⟩ := s
  obtain ⟨m, hm⟩ := t
  have hlm : l = m := eq_of_pairwise_lt id hl hm h
  subst hlm
  rfl

theorem mem_insert {a x : String} {s : Names} : x ∈ s.insert a ↔ x = a ∨ x ∈ s :=
  mem_insertAscending

theorem mem_insertAll {x : String} {l : List String} {s : Names} :
    x ∈ s.insertAll l ↔ x ∈ l ∨ x ∈ s := by
  induction l generalizing s with
  | nil => simp [insertAll]
  | cons a l ih =>
    have h : (s.insertAll (a :: l)) = (s.insert a).insertAll l := rfl
    rw [h, ih, mem_insert, List.mem_cons]
    grind

theorem mem_ofList {x : String} {l : List String} : x ∈ ofList l ↔ x ∈ l := by
  have h : ofList l = empty.insertAll l := rfl
  rw [h, mem_insertAll]
  constructor
  · rintro (h | h)
    · exact h
    · cases h
  · exact Or.inl

theorem isEmpty_eq_false {x : String} {s : Names} (h : x ∈ s) : s.isEmpty = false :=
  List.isEmpty_eq_false_iff_exists_mem.2 ⟨x, h⟩

end Names

/-! ## Tables -/

/-- Changes what stands under a name in a list with ascending names. -/
def alterAscending {α : Type} (name : String) (f : Option α → α) :
    List (String × α) → List (String × α)
  | [] => [(name, f none)]
  | e :: es =>
    if name = e.1 then (e.1, f (some e.2)) :: es
    else if name < e.1 then (name, f none) :: e :: es
    else e :: alterAscending name f es

/-- The names after a change are the earlier ones and the changed one. -/
theorem alterAscending_names {α : Type} (name : String) (f : Option α → α)
    (l : List (String × α)) :
    (alterAscending name f l).map Prod.fst = insertAscending name (l.map Prod.fst) := by
  induction l with
  | nil => rfl
  | cons e es ih =>
    unfold alterAscending
    rw [List.map_cons, insertAscending]
    split
    · rfl
    · split
      · rfl
      · rw [List.map_cons, ih]

/-- Under names that stand once each, looking up finds what stands there. -/
theorem lookup_eq_some_iff_mem {α : Type} {l : List (String × α)}
    (h : (l.map Prod.fst).Pairwise (· ≠ ·)) {name : String} {x : α} :
    l.lookup name = some x ↔ (name, x) ∈ l := by
  rw [List.lookup_eq_some_iff]
  constructor
  · rintro ⟨front, behind, rfl, -⟩
    simp
  · intro hmem
    rcases List.append_of_mem hmem with ⟨front, behind, rfl⟩
    refine ⟨front, behind, rfl, ?_⟩
    -- an earlier entry under the name would be a second one
    rw [List.map_append, List.pairwise_append] at h
    intro p hp
    have hne := h.2.2 p.1 (List.mem_map_of_mem hp) name (by simp)
    simpa using Ne.symm hne

/-- Values under names, the names ascending by code points. -/
structure Table (α : Type) where
  /-- The names with their values, each name once. -/
  entries : List (String × α) := []
  ascending : (entries.map Prod.fst).Pairwise (· < ·) := by exact List.Pairwise.nil
deriving DecidableEq, Repr

namespace Table

variable {α : Type}

/-- The table without names. -/
def empty : Table α := {}

instance : Inhabited (Table α) := ⟨empty⟩

def names (t : Table α) : List String := t.entries.map Prod.fst

def find? (t : Table α) (name : String) : Option α := t.entries.lookup name

def isEmpty (t : Table α) : Bool := t.entries.isEmpty

/-- Sets what stands under a name from what stood there. -/
def alter (t : Table α) (name : String) (f : Option α → α) : Table α :=
  ⟨alterAscending name f t.entries, by
    rw [alterAscending_names]; exact insertAscending_pairwise t.ascending⟩

/-- Sets what stands under a name. -/
def insert (t : Table α) (name : String) (value : α) : Table α := t.alter name fun _ => value

theorem find?_alter_self (t : Table α) (name : String) (f : Option α → α) :
    (t.alter name f).find? name = some (f (t.find? name)) := by
  obtain ⟨l, hl⟩ := t
  simp only [find?, alter]
  induction l with
  | nil => simp [alterAscending]
  | cons e es ih =>
    obtain ⟨key, held⟩ := e
    have he := List.pairwise_cons.1 hl
    unfold alterAscending
    split
    · rename_i h
      have h : name = key := h
      subst h
      simp
    · rename_i h
      have hbeq : (name == key) = false := by simpa using h
      split
      · -- all later names are greater, so nothing stood under the name
        rename_i hlt
        have hes : es.lookup name = none := by
          rw [List.lookup_eq_none_iff]
          intro p hp
          have hlt' := String.lt_trans hlt (he.1 p.1 (List.mem_map_of_mem hp))
          rw [bne_iff_ne]
          intro hname
          rw [hname] at hlt'
          exact String.lt_irrefl _ hlt'
        simp [List.lookup_cons, hbeq, hes]
      · rw [List.lookup_cons, List.lookup_cons, hbeq]
        exact ih he.2

theorem find?_alter_ne (t : Table α) {name other : String} (h : other ≠ name)
    (f : Option α → α) : (t.alter name f).find? other = t.find? other := by
  obtain ⟨l, hl⟩ := t
  simp only [find?, alter]
  clear hl
  have hbeq : (other == name) = false := by simpa using h
  induction l with
  | nil => simp [alterAscending, List.lookup_cons, hbeq]
  | cons e es ih =>
    obtain ⟨key, held⟩ := e
    unfold alterAscending
    split
    · rename_i he
      have he : name = key := he
      subst he
      simp [List.lookup_cons, hbeq]
    · split
      · simp [List.lookup_cons, hbeq]
      · rw [List.lookup_cons, List.lookup_cons, ih]

theorem find?_insert (t : Table α) (name other : String) (value : α) :
    (t.insert name value).find? other = if other = name then some value else t.find? other := by
  by_cases h : other = name
  · subst h
    rw [if_pos rfl]
    exact find?_alter_self t _ _
  · rw [if_neg h]
    exact find?_alter_ne t h _

/-- What stands under a name stands nowhere else under it. -/
theorem find?_eq_some {t : Table α} {name : String} {x : α} :
    t.find? name = some x ↔ (name, x) ∈ t.entries := by
  refine lookup_eq_some_iff_mem (t.ascending.imp ?_)
  rintro a b hlt rfl
  exact String.lt_irrefl _ hlt

/-- Tables in which the same is found are equal. -/
theorem ext {t u : Table α} (h : ∀ name, t.find? name = u.find? name) : t = u := by
  have hmem : ∀ e : String × α, e ∈ t.entries ↔ e ∈ u.entries := by
    intro e
    rw [← find?_eq_some, ← find?_eq_some, h]
  have hentries : t.entries = u.entries :=
    eq_of_pairwise_lt Prod.fst (List.pairwise_map.1 t.ascending) (List.pairwise_map.1 u.ascending) hmem
  cases t
  cases u
  cases hentries
  rfl

/-- Any property holds of all values of the empty table. -/
theorem forall_empty {P : α → Prop} : ∀ e ∈ (empty : Table α).entries, P e.2 :=
  List.forall_mem_nil _

/-- A property of all values is kept by a change to values that have it. -/
theorem forall_alter {t : Table α} {P : α → Prop} (h : ∀ e ∈ t.entries, P e.2) {name : String}
    {f : Option α → α} (hf : ∀ held, P (f held)) : ∀ e ∈ (t.alter name f).entries, P e.2 := by
  obtain ⟨l, hl⟩ := t
  simp only [alter] at h ⊢
  clear hl
  induction l with
  | nil => simp [alterAscending, hf]
  | cons d es ih =>
    have hd := List.forall_mem_cons.1 h
    unfold alterAscending
    split
    · exact List.forall_mem_cons.2 ⟨hf _, hd.2⟩
    · split
      · exact List.forall_mem_cons.2 ⟨hf _, h⟩
      · exact List.forall_mem_cons.2 ⟨hd.1, ih hd.2⟩

end Table
end Countersign
