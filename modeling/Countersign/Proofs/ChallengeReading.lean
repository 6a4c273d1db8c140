import Countersign.Header.Challenge
import Countersign.Proofs.HeaderGrammar
import Mathlib.Data.List.DropRight

/-!
# Challenge reading — the list of challenges, piece by piece

What a list of challenges says is defined here without a parser: the text is cut at the commas outside
quotes, and every piece is classified on its own text.  The reader of `Challenge.parseAll`, which works
its way through the whole text and recovers from what it cannot read, says the same.

* `Challenge.pieces` — the pieces of a text;
* `Challenge.Items`, `Challenge.Offers` — the challenge that a piece spells;
* `Challenge.Turn`, `Challenge.Reads` — what one piece, and all of them, do to the open challenge;
* `Challenge.reads_iff_parseAll_eq` — the two readings agree on all header values.
-/

namespace Countersign

/-! ## Parameters as lists -/

namespace Parameters

theorem eq_of_toList_eq {ps qs : Parameters} (h : ps.toList = qs.toList) : ps = qs := by
  cases ps
  cases qs
  cases h
  rfl

theorem toList_add (ps : Parameters) (name value : String) :
    (ps.add name value).toList =
      if name ∈ ps.toList.map Prod.fst then ps.toList else ps.toList ++ [(name, value)] := by
  have hfind : (ps.find? name).isSome = true ↔ name ∈ ps.toList.map Prod.fst := by
    constructor
    · intro h
      by_contra hno
      have hnone : ps.find? name = none := by
        rw [find?, List.lookup_eq_none_iff]
        intro p hp
        have hne : name ≠ p.1 := fun he => hno (List.mem_map.2 ⟨p, hp, he.symm⟩)
        simpa using hne
      simp [hnone] at h
    · intro h
      by_contra hno
      exact not_mem_names (by simpa using hno) h
  unfold add
  split
  · rename_i h
    rw [if_pos (hfind.1 h)]
  · rename_i h
    rw [if_neg fun hmem => h (hfind.2 hmem)]

end Parameters

namespace Challenge

open Text Header

/-! ## The reference reading -/

/-- A text cut at the commas outside quotes. -/
def cut : Mode → List Char → List (List Char)
  | _, [] => [[]]
  | m, c :: r =>
    if m = .outside ∧ c = ',' then [] :: cut .outside r
    else (cut (m.next c) r).modifyHead (c :: ·)

/-- A text without the blanks at its ends. -/
def strip (w : List Char) : List Char := (w.dropWhile isSpace).rdropWhile isSpace

/-- The pieces of a list. -/
def pieces (s : List Char) : List (List Char) := ((cut .outside s).map strip).filter (!·.isEmpty)

example : pieces "Bearer a=\"x, \\\" y\" ,, b=1, \"c , d ".toList =
    ["Bearer a=\"x, \\\" y\"".toList, "b=1".toList, "\"c , d".toList] := by
  decide

/-- A text begins with a blank, or has ended. -/
def Pauses (t : List Char) : Prop := ∀ c ∈ t.head?, isSpace c = true

/-- An item of the kind stands in front of a text that pauses. -/
def Leads (P : List Char → Prop) (x t : List Char) : Prop := ∃ w, x = w ++ t ∧ P w ∧ Pauses t

/-- An item that is no parameter is passed over: a token68, or else a text that begins like a token, up
to the next blank outside quotes. -/
inductive PassedOver (x t : List Char) : Prop where
  | token68 (hparameter : ∀ n v u, ¬ Leads (Assigns · n v) x u) (h : Leads IsToken68 x t)
  | other {w : List Char} (hparameter : ∀ n v u, ¬ Leads (Assigns · n v) x u)
      (htoken68 : ∀ u, ¬ Leads IsToken68 x u) (hbegin : ∃ c ∈ x.head?, isTokenChar c = true)
      (h : Parts isSpace .outside x w t)

/-- A challenge gains a parameter, unless one of that name is there. -/
def Adds (c : Challenge) (n v : List Char) (c' : Challenge) : Prop :=
  c'.scheme = c.scheme ∧
    c'.parameters.toList =
      if String.ofList n ∈ c.parameters.toList.map Prod.fst then c.parameters.toList
      else c.parameters.toList ++ [(String.ofList n, String.ofList v)]

/-- What stands behind a scheme adds the parameters among its items. -/
inductive Items : Challenge → List Char → Challenge → Prop where
  | done {c : Challenge} : Items c [] c
  | parameter {c c₁ c' : Challenge} {b x n v t : List Char} (hne : b ≠ []) (hb : IsBlanks b)
      (h : Leads (Assigns · n v) x t) (hadd : Adds c n v c₁) (hrest : Items c₁ t c') :
      Items c (b ++ x) c'
  | passed {c c' : Challenge} {b x t : List Char} (hne : b ≠ []) (hb : IsBlanks b)
      (h : PassedOver x t) (hrest : Items c t c') : Items c (b ++ x) c'

/-- A piece as a whole is a scheme with its items. -/
inductive Offers : List Char → Challenge → Prop where
  | mk {scheme t : List Char} {c : Challenge} (hscheme : IsToken scheme)
      (hitems : Items ⟨String.ofList scheme, .empty⟩ t c) : Offers (scheme ++ t) c

/-- A piece begins with a token and a blank. -/
def Begins (w : List Char) : Prop :=
  ∃ scheme c t, w = scheme ++ c :: t ∧ IsToken scheme ∧ isSpace c = true

/-- What a piece does to the open challenge: the challenges it ends, and the one open behind it. -/
inductive Turn (w : List Char) : Option Challenge → List Challenge → Option Challenge → Prop where
  | adds {c c' : Challenge} {n v : List Char} (h : Assigns w n v) (hadd : Adds c n v c') :
      Turn w (some c) [] (some c')
  | dropped {n v : List Char} (h : Assigns w n v) : Turn w none [] none
  | opens {current : Option Challenge} {c : Challenge} (hno : ∀ n v, ¬ Assigns w n v)
      (h : Offers w c) : Turn w current current.toList (some c)
  | ends {current : Option Challenge} (hno : ∀ n v, ¬ Assigns w n v) (hno' : ∀ c, ¬ Offers w c)
      (h : Begins w) : Turn w current current.toList none
  | skipped {current : Option Challenge} (hno : ∀ n v, ¬ Assigns w n v) (hno' : ∀ c, ¬ Offers w c)
      (h : ¬ Begins w) : Turn w current [] current

/-- The challenges that pieces spell, from left to right. -/
inductive Reads : Option Challenge → List (List Char) → List Challenge → Prop where
  | done {current : Option Challenge} : Reads current [] current.toList
  | piece {current current' : Option Challenge} {w : List Char} {ws : List (List Char)}
      {ended cs : List Challenge} (h : Turn w current ended current') (hrest : Reads current' ws cs) :
      Reads current (w :: ws) (ended ++ cs)

/-! ## Where a piece ends -/

variable {b k r rest s t u w x : List Char} {n v : List Char}

theorem pauses_nil : Pauses [] := by
  intro c hc
  cases hc

theorem pauses_blanks (hne : b ≠ []) (hb : IsBlanks b) : Pauses (b ++ t) := by
  intro d hd
  cases b with
  | nil => exact absurd rfl hne
  | cons e b =>
      have hed : e = d := by simpa using hd
      exact hed ▸ hb e (by simp)

/-- A text goes on behind a piece: with blanks, and then with nothing or with the next comma, if the
piece closes its quotes. -/
structure Sealed (w b rest : List Char) : Prop where
  whole : Whole (· == ',') .outside w
  blanks : IsBlanks b
  ends : rest = [] ∨ Mode.outside.behind w = .outside ∧ ∃ t, rest = ',' :: t

theorem Sealed.halts (h : Sealed w b rest) : Halts isSpace rest := by
  rcases h.ends with rfl | ⟨_, t, rfl⟩
  · exact .nil
  · exact .cons rfl

theorem Sealed.of_append (h : Sealed (x ++ t) b rest) (hx : Level x) : Sealed t b rest where
  whole := by
    have ht := (whole_append.1 h.whole).2
    rwa [hx.closed] at ht
  blanks := h.blanks
  ends := by simpa [hx.closed] using h.ends

theorem Sealed.behind (h : Sealed w b rest) (hw : Level w) : Sealed [] b rest := by
  have hend : Sealed (w ++ []) b rest := by simpa using h
  exact hend.of_append hw

theorem Sealed.skipBlanks_eq (h : Sealed w b rest) : skipBlanks (b ++ rest) = rest :=
  skipBlanks_append h.blanks h.halts

/-- A piece that ends visibly has a visible text behind its first blanks. -/
theorem Sealed.exists_gap (h : Sealed w b rest) (hw : EndsVisibly w) :
    ∃ g x, w = g ++ x ∧ IsBlanks g ∧ Sealed x b rest ∧ EndsVisibly x ∧ BeginsVisibly x := by
  rcases exists_blanks w with ⟨g, hsplit, hg, hhalts⟩
  generalize skipBlanks w = x at hsplit hhalts
  subst hsplit
  have hx : Sealed x b rest := h.of_append hg.level
  cases x with
  | nil =>
      -- blanks alone do not end visibly
      rcases hw with ⟨u, c, hu, hc⟩
      have hspace := hg c (by simp at hu; simp [hu])
      simp [hc] at hspace
  | cons c x =>
      have hspace : isSpace c = false := hhalts c (by simp)
      have hcomma : (c == ',') = false := hx.whole.1 rfl
      refine ⟨g, c :: x, rfl, hg, hx, hw.of_append (by simp), c, x, rfl, ?_⟩
      simp [isSeparator, hspace, hcomma]

/-- An item that the whole text begins with lies within the first piece. -/
theorem Sealed.within (h : Sealed w b rest) (hx : Solid x) (hs : w ++ (b ++ rest) = x ++ r) :
    ∃ t, w = x ++ t ∧ r = t ++ (b ++ rest) ∧ Sealed t b rest := by
  rcases List.append_eq_append_iff.1 hs with ⟨y, rfl, hy⟩ | ⟨t, rfl, rfl⟩
  · by_cases hne : y = []
    · subst hne
      exact ⟨[], by simp, by simpa using hy.symm, h.behind (by simpa using hx.level)⟩
    · -- the item would reach over the blanks into the next piece, and hold the comma
      exfalso
      have hyv : EndsVisibly y := hx.ends.of_append hne
      have hlong : ∃ z, y = b ++ z ∧ rest = z ++ r ∧ z ≠ [] := by
        rcases List.append_eq_append_iff.1 hy with ⟨z, rfl, hz⟩ | ⟨z, hb, rfl⟩
        · refine ⟨z, rfl, hz, ?_⟩
          rintro rfl
          rcases hyv with ⟨y', c, hy', hc⟩
          have hspace := h.blanks c (by simp at hy'; simp [hy'])
          simp [hc] at hspace
        · rcases hyv with ⟨y', c, rfl, hc⟩
          have hspace := h.blanks c (by simp [hb])
          simp [hc] at hspace
      rcases hlong with ⟨z, rfl, hz, hzne⟩
      rcases h.ends with rfl | ⟨hout, t, rfl⟩
      · simp [hzne] at hz
      · cases z with
        | nil => exact hzne rfl
        | cons c z =>
            have hcomma : c = ',' := by simpa using (congrArg List.head? hz).symm
            subst hcomma
            have hwhole := (whole_append.1 (whole_append.1 hx.level.whole).2).2
            have hclosed : (Mode.outside.behind w).behind b = .outside := by
              rw [hout]
              exact h.blanks.level.closed
            rw [hclosed] at hwhole
            exact absurd (hwhole.1 rfl) (by decide)
  · exact ⟨t, rfl, rfl, h.of_append hx.level⟩

/-- In the whole text, what may follow an item is a blank or the end of its piece. -/
theorem Sealed.atDelimiter_iff (h : Sealed t b rest) :
    atDelimiter [','] (t ++ (b ++ rest)) = true ↔ Pauses t := by
  cases t with
  | nil =>
      refine ⟨fun _ => pauses_nil, fun _ => ?_⟩
      cases b with
      | nil =>
          rcases h.ends with rfl | ⟨_, t, rfl⟩
          · rfl
          · rfl
      | cons c b =>
          have hc : isSpace c = true := h.blanks c (by simp)
          simp [atDelimiter, hc]
  | cons c t =>
      have hc : c ≠ ',' := by simpa using h.whole.1 rfl
      simp [atDelimiter, Pauses, hc]

theorem Sealed.leads_iff {P : List Char → Prop} (hP : ∀ w, P w → Solid w) (h : Sealed x b rest) :
    (∃ w, x ++ (b ++ rest) = w ++ r ∧ P w ∧ atDelimiter [','] r = true) ↔
      ∃ t, r = t ++ (b ++ rest) ∧ Sealed t b rest ∧ Leads P x t := by
  constructor
  · rintro ⟨w, hs, hw, hend⟩
    rcases h.within (hP w hw) hs with ⟨t, rfl, rfl, ht⟩
    exact ⟨t, rfl, ht, w, rfl, hw, ht.atDelimiter_iff.1 hend⟩
  · rintro ⟨t, rfl, ht, w, rfl, hw, hpause⟩
    exact ⟨w, by simp, hw, ht.atDelimiter_iff.2 hpause⟩

theorem Sealed.param_eq_some (h : Sealed x b rest) :
    param [','] (x ++ (b ++ rest)) = some ((n, v), r) ↔
      ∃ t, r = t ++ (b ++ rest) ∧ Sealed t b rest ∧ Leads (Assigns · n v) x t :=
  (Header.param_eq_some delimits_comma).trans
    (h.leads_iff (P := (Assigns · n v)) fun _ hw => hw.solid)

theorem Sealed.token68_eq_some (h : Sealed x b rest) :
    token68 (x ++ (b ++ rest)) = some r ↔
      ∃ t, r = t ++ (b ++ rest) ∧ Sealed t b rest ∧ Leads IsToken68 x t :=
  Header.token68_eq_some.trans (h.leads_iff fun _ hw => hw.solid)

theorem Leads.split {P : List Char → Prop} (hl : Leads P x t) (hP : ∀ w, P w → Solid w) :
    ∃ w, x = w ++ t ∧ Solid w := by
  rcases hl with ⟨w, rfl, hw, _⟩
  exact ⟨w, rfl, hP w hw⟩

theorem Sealed.of_split (h : Sealed x b rest) (hx : ∃ w, x = w ++ t ∧ Solid w) :
    Sealed t b rest ∧ BeginsVisibly x := by
  rcases hx with ⟨w, rfl, hw⟩
  exact ⟨h.of_append hw.level, hw.begins.append⟩

theorem Sealed.param_eq_none (h : Sealed x b rest) :
    param [','] (x ++ (b ++ rest)) = none ↔ ∀ n v t, ¬ Leads (Assigns · n v) x t := by
  constructor
  · intro hnone n v t hl
    have ht := (h.of_split (hl.split fun _ hw => hw.solid)).1
    have hsome := h.param_eq_some.2 ⟨t, rfl, ht, hl⟩
    simp [hnone] at hsome
  · intro hno
    rcases hp : param [','] (x ++ (b ++ rest)) with _ | ⟨⟨n, v⟩, r⟩
    · rfl
    · rcases h.param_eq_some.1 hp with ⟨t, _, _, hl⟩
      exact absurd hl (hno n v t)

theorem Sealed.token68_eq_none (h : Sealed x b rest) :
    token68 (x ++ (b ++ rest)) = none ↔ ∀ t, ¬ Leads IsToken68 x t := by
  constructor
  · intro hnone t hl
    have ht := (h.of_split (hl.split fun _ hw => hw.solid)).1
    have hsome := h.token68_eq_some.2 ⟨t, rfl, ht, hl⟩
    simp [hnone] at hsome
  · intro hno
    rcases hp : token68 (x ++ (b ++ rest)) with _ | r
    · rfl
    · rcases h.token68_eq_some.1 hp with ⟨t, _, _, hl⟩
      exact absurd hl (hno t)

/-! ## Items -/

theorem items_of_end (h : skipBlanks s = []) : items s = some ([], []) := by
  unfold items
  split
  · rfl
  · rename_i hs
    simp [h] at hs

theorem items_of_comma (h : skipBlanks s = ',' :: t) : items s = some ([], ',' :: t) := by
  unfold items
  split
  · rename_i hs
    simp [h] at hs
  · rename_i c r hs
    rw [h] at hs
    cases hs
    exact if_pos rfl

theorem items_of_bare {c : Char} (hc : isSeparator c = false) : items (c :: r) = none := by
  simp only [isSeparator, Bool.or_eq_false_iff, beq_eq_false_iff_ne] at hc
  have hblanks : skipBlanks (c :: r) = c :: r := skipBlanks_append isBlanks_nil (.cons hc.2)
  unfold items
  split
  · rename_i hs
    simp [hblanks] at hs
  · rename_i d q hs
    rw [hblanks] at hs
    cases hs
    simp [hc.1]

theorem items_append {c : Char} (hne : b ≠ []) (hb : IsBlanks b) (hc : isSeparator c = false) :
    items (b ++ c :: r) =
      match param [','] (c :: r) with
      | some (p, rest) => (items rest).map fun q => (p :: q.1, q.2)
      | none =>
        match token68 (c :: r) with
        | some rest => items rest
        | none =>
          if isTokenChar c = true then items (skipUntil isSeparator false (c :: r)).2 else none := by
  simp only [isSeparator, Bool.or_eq_false_iff, beq_eq_false_iff_ne] at hc
  have hblanks : skipBlanks (b ++ c :: r) = c :: r := skipBlanks_append hb (.cons hc.2)
  have hgap : ¬ (b ++ c :: r).length ≤ (c :: r).length := by
    have hpos := List.length_pos_of_ne_nil hne
    rw [List.length_append]
    omega
  rw [items]
  split
  · rename_i hs
    simp [hblanks] at hs
  · rename_i d q hs
    rw [hblanks] at hs
    cases hs
    -- there is a gap, and no comma behind it
    rw [if_neg hc.1, if_neg hgap]
    split
    · rename_i hp
      simp [hp]
    · rename_i hp
      simp only [hp]
      split
      · rename_i ht
        simp [ht]
      · rename_i ht
        simp [ht]

def withItems (c : Challenge) (ps : List (List Char × List Char)) : Challenge :=
  ps.foldl (fun c p => c.withParameter (String.ofList p.1) (String.ofList p.2)) c

theorem ofItems_eq (scheme : List Char) (ps : List (List Char × List Char)) :
    ofItems scheme ps = withItems ⟨String.ofList scheme, .empty⟩ ps := by
  have hfold : ∀ qs : Parameters, withItems ⟨String.ofList scheme, qs⟩ ps =
      ⟨String.ofList scheme,
        (ps.map fun p => (String.ofList p.1, String.ofList p.2)).foldl
          (fun qs p => qs.add p.1 p.2) qs⟩ := by
    induction ps with
    | nil => exact fun _ => rfl
    | cons p ps ih => exact fun qs => ih (qs.add (String.ofList p.1) (String.ofList p.2))
  exact (hfold .empty).symm

theorem adds_iff {c c' : Challenge} :
    Adds c n v c' ↔ c' = c.withParameter (String.ofList n) (String.ofList v) := by
  have hadd := c.parameters.toList_add (String.ofList n) (String.ofList v)
  constructor
  · rintro ⟨hscheme, hlist⟩
    have hparameters : c'.parameters = c.parameters.add (String.ofList n) (String.ofList v) :=
      Parameters.eq_of_toList_eq (hlist.trans hadd.symm)
    calc
      c' = ⟨c'.scheme, c'.parameters⟩ := rfl
      _ = c.withParameter (String.ofList n) (String.ofList v) := by rw [hscheme, hparameters]; rfl
  · rintro rfl
    exact ⟨rfl, hadd⟩

/-- A text that is passed over in its piece is passed over in the whole text, up to blanks that run to
the end of it. -/
theorem Sealed.skip_other (h : Sealed x b rest) (hp : Parts isSpace .outside x w t) :
    Sealed t b rest ∧
      items (skipUntil isSeparator false (x ++ (b ++ rest))).2 = items (t ++ (b ++ rest)) := by
  rcases hp with ⟨rfl, hspace, hends⟩
  have hwhole : Whole isSeparator .outside w := (whole_append.1 h.whole).1.or hspace
  -- the text is followed by something to skip to, or is in quotes that are never closed
  by_cases hout : Mode.outside.behind w = .outside
  · have ht : Sealed t b rest := h.of_append ⟨(whole_append.1 h.whole).1, hout⟩
    have hparts : Parts isSeparator .outside (w ++ t ++ (b ++ rest)) w (t ++ (b ++ rest)) := by
      refine ⟨List.append_assoc .., hwhole, ?_⟩
      cases hrest : t ++ (b ++ rest) with
      | nil => exact .inl rfl
      | cons c q =>
          refine .inr ⟨hout, c, q, rfl, ?_⟩
          have hc : atDelimiter [','] (t ++ (b ++ rest)) = true := by
            refine ht.atDelimiter_iff.2 ?_
            rcases hends with rfl | ⟨_, d, t', rfl, hd⟩
            · exact pauses_nil
            · simpa [Pauses] using hd
          rw [hrest] at hc
          simpa [atDelimiter, isSeparator, or_comm] using hc
    refine ⟨ht, ?_⟩
    rw [hparts.skipUntil_eq rfl]
  · have hnil : t = [] := by
      rcases hends with rfl | ⟨hout', _⟩
      · rfl
      · exact absurd hout' hout
    subst hnil
    have hrest : rest = [] := by
      rcases h.ends with hrest | ⟨hout', _⟩
      · exact hrest
      · simp [hout] at hout'
    subst hrest
    have hquotes : ∀ c ∈ b, c ≠ '"' := fun c hc => ne_of_isSpace (h.blanks c hc) rfl
    have hparts : Parts isSeparator .outside (w ++ [] ++ (b ++ [])) (w ++ b) [] :=
      ⟨by simp, whole_append.2 ⟨hwhole, whole_of_ne_outside hout hquotes⟩, .inl rfl⟩
    have hblank : skipBlanks (b ++ []) = [] := skipBlanks_append h.blanks .nil
    refine ⟨⟨trivial, h.blanks, .inl rfl⟩, ?_⟩
    rw [hparts.skipUntil_eq rfl, items_of_end rfl, List.nil_append, items_of_end hblank]

theorem Sealed.items_nil (h : Sealed [] b rest) : items (b ++ rest) = some ([], rest) := by
  rcases h.ends with rfl | ⟨_, t, rfl⟩
  · exact items_of_end h.skipBlanks_eq
  · exact items_of_comma h.skipBlanks_eq

variable {g : List Char}

theorem Sealed.items_parameter (h : Sealed x b rest) (hne : g ≠ []) (hg : IsBlanks g)
    (hl : Leads (Assigns · n v) x t) :
    Sealed t b rest ∧ items (g ++ (x ++ (b ++ rest))) =
      (items (t ++ (b ++ rest))).map fun q => ((n, v) :: q.1, q.2) := by
  rcases h.of_split (hl.split fun _ hw => hw.solid) with ⟨ht, hx⟩
  have hparam := h.param_eq_some.2 ⟨t, rfl, ht, hl⟩
  rcases hx with ⟨c, x', rfl, hc⟩
  refine ⟨ht, ?_⟩
  rw [List.cons_append] at hparam ⊢
  rw [items_append hne hg hc, hparam]

theorem Sealed.items_passed (h : Sealed x b rest) (hne : g ≠ []) (hg : IsBlanks g)
    (hp : PassedOver x t) :
    Sealed t b rest ∧ items (g ++ (x ++ (b ++ rest))) = items (t ++ (b ++ rest)) := by
  cases hp with
  | token68 hparameter hl =>
      rcases h.of_split (hl.split fun _ hw => hw.solid) with ⟨ht, hx⟩
      have hparam := h.param_eq_none.2 hparameter
      have htoken68 := h.token68_eq_some.2 ⟨t, rfl, ht, hl⟩
      rcases hx with ⟨c, x', rfl, hc⟩
      refine ⟨ht, ?_⟩
      rw [List.cons_append] at hparam htoken68 ⊢
      rw [items_append hne hg hc, hparam, htoken68]
  | other hparameter hno hbegin hparts =>
      have hparam := h.param_eq_none.2 hparameter
      have htoken68 := h.token68_eq_none.2 hno
      have hother := h.skip_other hparts
      cases x with
      | nil => simp at hbegin
      | cons c x =>
          have hc : isTokenChar c = true := by simpa using hbegin
          refine ⟨hother.1, ?_⟩
          rw [← hother.2]
          rw [List.cons_append] at hparam htoken68 ⊢
          rw [items_append hne hg (isSeparator_eq_false hc), hparam, htoken68]
          exact if_pos hc

theorem Sealed.items_none (h : Sealed x b rest) (hne : g ≠ []) (hg : IsBlanks g)
    (hx : BeginsVisibly x) (hparameter : ∀ n v t, ¬ Leads (Assigns · n v) x t)
    (hpassed : ∀ t, ¬ PassedOver x t) : items (g ++ (x ++ (b ++ rest))) = none := by
  have hno : ∀ t, ¬ Leads IsToken68 x t := fun t hl => hpassed t (.token68 hparameter hl)
  have hparam := h.param_eq_none.2 hparameter
  have htoken68 := h.token68_eq_none.2 hno
  rcases hx with ⟨c, x', rfl, hc⟩
  have hbegin : ¬ isTokenChar c = true := fun htoken =>
    hpassed _ (.other hparameter hno ⟨c, rfl, htoken⟩ (parts_skipUntil rfl _))
  rw [List.cons_append] at hparam htoken68 ⊢
  rw [items_append hne hg hc, hparam, htoken68]
  exact if_neg hbegin

theorem PassedOver.split (h : PassedOver x t) : ∃ w, x = w ++ t ∧ w ≠ [] := by
  cases h with
  | token68 _ hl =>
      rcases hl.split fun _ hw => hw.solid with ⟨w, hwt, hw⟩
      exact ⟨w, hwt, hw.ends.ne_nil⟩
  | @other w _ _ hbegin hparts =>
      refine ⟨w, hparts.text, ?_⟩
      rintro rfl
      rcases hbegin with ⟨c, hc, htoken⟩
      have hxt : x = t := hparts.text
      subst hxt
      rcases hparts.ends with rfl | ⟨_, d, t', rfl, hd⟩
      · cases hc
      · have hdc : d = c := by simpa using hc
        subst hdc
        simp [isTokenChar_of_isSpace hd] at htoken

/-- What the loop over the items reads, they spell. -/
theorem items_sound {ps : List (List Char × List Char)} (h : Sealed u b rest)
    (hu : u = [] ∨ EndsVisibly u) (hr : items (u ++ (b ++ rest)) = some (ps, r)) :
    r = rest ∧ ∀ c, Items c u (c.withItems ps) := by
  -- every item leaves a shorter rest of the piece, which ends as the piece does
  induction hn : u.length using Nat.strongRecOn generalizing u ps with
  | ind n ih =>
      rcases hu with rfl | hu
      · have hnil := h.items_nil
        rw [List.nil_append, hnil] at hr
        cases hr
        exact ⟨rfl, fun c => .done⟩
      rcases h.exists_gap hu with ⟨g, x, rfl, hg, hx, hxv, hbegin⟩
      have hlater : ∀ {w t}, x = w ++ t → w ≠ [] → t.length < n ∧ (t = [] ∨ EndsVisibly t) := by
        intro w t hwt hw
        have hpos := List.length_pos_of_ne_nil hw
        have hlen := congrArg List.length hwt
        rw [List.length_append] at hlen hn
        exact ⟨by omega, (hwt ▸ hxv).nil_or⟩
      rw [List.append_assoc] at hr
      by_cases hne : g = []
      · -- an item without a gap
        subst hne
        rcases hbegin with ⟨c, x', rfl, hc⟩
        simp [items_of_bare hc] at hr
      by_cases hparameter : ∃ n v t, Leads (Assigns · n v) x t
      · rcases hparameter with ⟨name, value, t, hl⟩
        have hitems := hx.items_parameter hne hg hl
        rw [hitems.2] at hr
        rcases Option.map_eq_some_iff.1 hr with ⟨⟨ps', r'⟩, hq, he⟩
        cases he
        rcases hl.split fun _ hw => hw.solid with ⟨w, hwt, hw⟩
        have hshort := hlater hwt hw.ends.ne_nil
        have hrest := ih t.length hshort.1 hitems.1 hshort.2 hq rfl
        exact ⟨hrest.1, fun c => .parameter hne hg hl (adds_iff.2 rfl) (hrest.2 _)⟩
      by_cases hpassed : ∃ t, PassedOver x t
      · rcases hpassed with ⟨t, hp⟩
        have hitems := hx.items_passed hne hg hp
        rw [hitems.2] at hr
        rcases hp.split with ⟨w, hwt, hw⟩
        have hshort := hlater hwt hw
        have hrest := ih t.length hshort.1 hitems.1 hshort.2 hr rfl
        exact ⟨hrest.1, fun c => .passed hne hg hp (hrest.2 c)⟩
      · have hnone := hx.items_none hne hg hbegin (fun n v t hl => hparameter ⟨n, v, t, hl⟩)
          fun t hp => hpassed ⟨t, hp⟩
        simp [hnone] at hr

/-- What the items spell, the loop over them reads. -/
theorem items_complete {c c' : Challenge} (hi : Items c u c') (h : Sealed u b rest) :
    ∃ ps, items (u ++ (b ++ rest)) = some (ps, rest) ∧ c' = c.withItems ps := by
  induction hi with
  | done => exact ⟨[], h.items_nil, rfl⟩
  | @parameter c c₁ c' g x n v t hne hg hl hadd _ ih =>
      have hx := h.of_append hg.level
      have hitems := hx.items_parameter hne hg hl
      rcases ih hitems.1 with ⟨ps, hps, rfl⟩
      rcases adds_iff.1 hadd with rfl
      refine ⟨(n, v) :: ps, ?_, rfl⟩
      rw [List.append_assoc, hitems.2, hps]
      rfl
  | passed hne hg hp _ ih =>
      have hx := h.of_append hg.level
      have hitems := hx.items_passed hne hg hp
      rcases ih hitems.1 with ⟨ps, hps, rfl⟩
      refine ⟨ps, ?_, rfl⟩
      rw [List.append_assoc, hitems.2, hps]

/-! ## One element -/

/-- An element is one parameter exactly when its piece is. -/
theorem Sealed.soleParam_eq_some (h : Sealed w b rest) (hw : EndsVisibly w) :
    soleParam (w ++ (b ++ rest)) = some ((n, v), r) ↔ Assigns w n v ∧ r = rest := by
  constructor
  · intro hs
    unfold soleParam at hs
    split at hs
    · cases hs
    · rename_i p q hp
      have hrest : p = (n, v) ∧ r = skipBlanks q ∧ ∀ c ∈ (skipBlanks q).head?, c = ',' := by
        split at hs
        · rename_i hq
          cases hs
          exact ⟨rfl, hq.symm, by simp [hq]⟩
        · rename_i c t hq
          split at hs
          · rename_i hc
            cases hs
            exact ⟨rfl, hq.symm, by simp [hq, hc]⟩
          · cases hs
      rcases hrest with ⟨rfl, rfl, hcomma⟩
      rcases h.param_eq_some.1 hp with ⟨t, rfl, ht, x, rfl, hx, _⟩
      -- what the piece has behind the parameter would end visibly
      have hnil : t = [] := by
        by_contra hne
        rcases ht.exists_gap (hw.of_append hne) with ⟨g, y, rfl, hg, _, _, c, y', rfl, hc⟩
        simp only [isSeparator, Bool.or_eq_false_iff, beq_eq_false_iff_ne] at hc
        have hskip : skipBlanks (g ++ c :: y' ++ (b ++ rest)) = c :: (y' ++ (b ++ rest)) := by
          rw [List.append_assoc]
          exact skipBlanks_append hg (.cons hc.2)
        exact hc.1 (hcomma c (by rw [hskip]; rfl))
      subst hnil
      exact ⟨by simpa using hx, ht.skipBlanks_eq⟩
  · rintro ⟨hx, rfl⟩
    have hend := h.behind hx.level
    have hparam : param [','] (w ++ (b ++ r)) = some ((n, v), b ++ r) :=
      h.param_eq_some.2 ⟨[], rfl, hend, w, by simp, hx, pauses_nil⟩
    unfold soleParam
    rw [hparam]
    simp only [h.skipBlanks_eq]
    rcases h.ends with rfl | ⟨_, t, rfl⟩
    · rfl
    · exact if_pos rfl

/-- A text assigns one value to one name. -/
theorem assigns_unique {n' v' : List Char} (h : Assigns w n v) (h' : Assigns w n' v') :
    n = n' ∧ v = v' := by
  have hseal : Sealed w [] [] := ⟨h.level.whole, isBlanks_nil, .inl rfl⟩
  have hread := (hseal.soleParam_eq_some h.endsVisibly).2 ⟨h, rfl⟩
  have hread' := (hseal.soleParam_eq_some h.endsVisibly).2 ⟨h', rfl⟩
  rw [hread] at hread'
  simpa using hread'

theorem Items.pauses {c c' : Challenge} (h : Items c u c') : Pauses u := by
  cases h with
  | done => exact pauses_nil
  | parameter hne hg _ _ _ => exact pauses_blanks hne hg
  | passed hne hg _ _ => exact pauses_blanks hne hg

theorem Sealed.offers_of_challengeElement {scheme : List Char} {ps : List (List Char × List Char)}
    (h : Sealed w b rest) (hw : EndsVisibly w)
    (hr : challengeElement (w ++ (b ++ rest)) = some ((scheme, ps), r)) :
    Offers w (ofItems scheme ps) ∧ r = rest := by
  unfold challengeElement at hr
  split at hr
  · cases hr
  · rename_i scheme' q ht
    rcases Option.map_eq_some_iff.1 hr with ⟨⟨ps', r'⟩, hq, he⟩
    cases he
    rcases token_eq_some.1 ht with ⟨hs, hscheme, _⟩
    rcases h.within hscheme.solid hs with ⟨t, rfl, rfl, hseal⟩
    have hitems := items_sound hseal hw.nil_or hq
    rw [ofItems_eq]
    exact ⟨.mk hscheme (hitems.2 _), hitems.1⟩

theorem Sealed.challengeElement_of_offers {c : Challenge} (h : Sealed w b rest) (hc : Offers w c) :
    ∃ scheme ps, challengeElement (w ++ (b ++ rest)) = some ((scheme, ps), rest) ∧
      c = ofItems scheme ps := by
  rcases hc with ⟨hscheme, hitems⟩
  rename_i scheme t
  have ht : Sealed t b rest := h.of_append hscheme.level
  have hhalts := (delimits_comma.halts (ht.atDelimiter_iff.2 hitems.pauses)).1
  have htoken : token (scheme ++ t ++ (b ++ rest)) = some (scheme, t ++ (b ++ rest)) :=
    token_eq_some.2 ⟨List.append_assoc .., hscheme, hhalts⟩
  rcases items_complete hitems ht with ⟨ps, hps, rfl⟩
  refine ⟨scheme, ps, ?_, (ofItems_eq scheme ps).symm⟩
  unfold challengeElement
  rw [htoken]
  simp only [hps, Option.map_some]

theorem Sealed.beginsLikeChallenge_iff (h : Sealed w b rest) (hno : ∀ c, ¬ Offers w c) :
    beginsLikeChallenge (w ++ (b ++ rest)) = true ↔ Begins w := by
  constructor
  · intro hbegin
    unfold beginsLikeChallenge at hbegin
    split at hbegin
    · rename_i scheme c q ht
      rcases token_eq_some.1 ht with ⟨hs, hscheme, _⟩
      rcases h.within hscheme.solid hs with ⟨t, rfl, hq, _⟩
      cases t with
      | nil => exact absurd (Offers.mk hscheme .done) (hno _)
      | cons d t =>
          have hcd : c = d := by simpa using congrArg List.head? hq
          exact ⟨scheme, d, t, rfl, hscheme, hcd ▸ hbegin⟩
    · cases hbegin
  · rintro ⟨scheme, c, t, rfl, hscheme, hc⟩
    have htoken : token (scheme ++ c :: t ++ (b ++ rest)) = some (scheme, c :: (t ++ (b ++ rest))) :=
      token_eq_some.2 ⟨by simp, hscheme, .cons (isTokenChar_of_isSpace hc)⟩
    unfold beginsLikeChallenge
    rw [htoken]
    exact hc

/-- The way past an element that is malformed leads to the end of its piece. -/
theorem Sealed.skipUntil_eq (h : Sealed w b rest) :
    (skipUntil (· == ',') false (w ++ (b ++ rest))).2 = rest := by
  have hblanks : Whole (· == ',') (Mode.outside.behind w) b :=
    whole_of_forall fun c hc => by simpa using ne_of_isSpace (h.blanks c hc) (d := ',') rfl
  have hparts : Parts (· == ',') .outside (w ++ (b ++ rest)) (w ++ b) rest := by
    refine ⟨by simp, whole_append.2 ⟨h.whole, hblanks⟩, ?_⟩
    rcases h.ends with hrest | ⟨hout, t, rfl⟩
    · exact .inl hrest
    · refine .inr ⟨?_, ',', t, rfl, rfl⟩
      rw [Mode.behind_append, hout]
      exact h.blanks.level.closed
  rw [hparts.skipUntil_eq rfl]

/-! ## The list -/

variable {current current' : Option Challenge} {ended : List Challenge}

theorem exists_turn (w : List Char) (current : Option Challenge) :
    ∃ ended current', Turn w current ended current' := by
  by_cases hassigns : ∃ n v, Assigns w n v
  · rcases hassigns with ⟨n, v, h⟩
    cases current with
    | none => exact ⟨_, _, .dropped h⟩
    | some c => exact ⟨_, _, .adds h (adds_iff.2 rfl)⟩
  have hno : ∀ n v, ¬ Assigns w n v := fun n v h => hassigns ⟨n, v, h⟩
  by_cases hoffers : ∃ c, Offers w c
  · rcases hoffers with ⟨c, h⟩
    exact ⟨_, _, .opens hno h⟩
  have hno' : ∀ c, ¬ Offers w c := fun c h => hoffers ⟨c, h⟩
  by_cases hbegins : Begins w
  · exact ⟨_, _, .ends hno hno' hbegins⟩
  · exact ⟨_, _, .skipped hno hno' hbegins⟩

/-- What a piece does, its element does in the list of all elements. -/
theorem Sealed.turn (h : Sealed w b rest) (hw : EndsVisibly w) (ht : Turn w current ended current') :
    (element (w ++ (b ++ rest))).2 = rest ∧
      ∀ es, assemble current ((element (w ++ (b ++ rest))).1 :: es) =
        ended ++ assemble current' es := by
  have hparameter : ∀ {n v}, Assigns w n v → element (w ++ (b ++ rest)) = (.parameter n v, rest) := by
    intro n v hx
    unfold element
    rw [(h.soleParam_eq_some hw).2 ⟨hx, rfl⟩]
  have hsole : (∀ n v, ¬ Assigns w n v) → soleParam (w ++ (b ++ rest)) = none := by
    intro hno
    rcases hs : soleParam (w ++ (b ++ rest)) with _ | ⟨⟨n, v⟩, r⟩
    · rfl
    · exact absurd ((h.soleParam_eq_some hw).1 hs).1 (hno n v)
  -- what is neither of the two is malformed for the parser, too
  have hmalformed : (∀ n v, ¬ Assigns w n v) → (∀ c, ¬ Offers w c) →
      element (w ++ (b ++ rest)) = (.malformed (beginsLikeChallenge (w ++ (b ++ rest))), rest) := by
    intro hno hno'
    have hnone : challengeElement (w ++ (b ++ rest)) = none := by
      rcases hs : challengeElement (w ++ (b ++ rest)) with _ | ⟨⟨scheme, ps⟩, r⟩
      · rfl
      · exact absurd (h.offers_of_challengeElement hw hs).1 (hno' _)
    unfold element
    rw [hsole hno, hnone]
    simp only [h.skipUntil_eq]
  cases ht with
  | adds hx hadd =>
      rw [hparameter hx, adds_iff.1 hadd]
      exact ⟨rfl, fun _ => rfl⟩
  | dropped hx =>
      rw [hparameter hx]
      exact ⟨rfl, fun _ => rfl⟩
  | opens hno hc =>
      rcases h.challengeElement_of_offers hc with ⟨scheme, ps, hchallenge, rfl⟩
      have helement : element (w ++ (b ++ rest)) = (.challenge scheme ps, rest) := by
        unfold element
        rw [hsole hno, hchallenge]
      rw [helement]
      cases current <;> exact ⟨rfl, fun _ => rfl⟩
  | ends hno hno' hbegin =>
      rw [hmalformed hno hno', (h.beginsLikeChallenge_iff hno').2 hbegin]
      cases current <;> exact ⟨rfl, fun _ => rfl⟩
  | skipped hno hno' hbegin =>
      have hfalse : beginsLikeChallenge (w ++ (b ++ rest)) = false := by
        have hiff := h.beginsLikeChallenge_iff hno'
        simpa using fun htrue => hbegin (hiff.1 htrue)
      rw [hmalformed hno hno', hfalse]
      cases current <;> exact ⟨rfl, fun _ => rfl⟩

theorem cut_of_whole {m : Mode} (h : Whole (· == ',') m w) : cut m w = [w] := by
  induction w generalizing m with
  | nil => rfl
  | cons c w ih =>
      have hgo : ¬ (m = .outside ∧ c = ',') := by
        rintro ⟨hm, rfl⟩
        exact absurd (h.1 hm) (by decide)
      rw [cut, if_neg hgo, ih h.2]
      rfl

theorem cut_append {m : Mode} (h : Whole (· == ',') m w) (hout : m.behind w = .outside) :
    cut m (w ++ ',' :: t) = w :: cut .outside t := by
  induction w generalizing m with
  | nil => exact if_pos ⟨hout, rfl⟩
  | cons c w ih =>
      have hgo : ¬ (m = .outside ∧ c = ',') := by
        rintro ⟨hm, rfl⟩
        exact absurd (h.1 hm) (by decide)
      rw [List.cons_append, cut, if_neg hgo, ih h.2 hout]
      rfl

theorem pieces_separator {c : Char} (hc : isSeparator c = true) : pieces (c :: s) = pieces s := by
  have hsep : c = ',' ∨ isSpace c = true := by simpa [isSeparator] using hc
  rcases hsep with rfl | hspace
  · have hcut : cut .outside (',' :: s) = [] :: cut .outside s := if_pos ⟨rfl, rfl⟩
    rw [pieces, hcut]
    rfl
  · have hstay : Mode.outside.next c = .outside := if_neg (ne_of_isSpace hspace rfl)
    have hcut : cut .outside (c :: s) = (cut .outside s).modifyHead (c :: ·) := by
      rw [cut, if_neg fun h => ne_of_isSpace hspace rfl h.2, hstay]
    have hstrip : ∀ w, strip (c :: w) = strip w := by
      intro w
      rw [strip, List.dropWhile_cons, if_pos hspace]
      rfl
    rw [pieces, hcut]
    cases hpieces : cut .outside s with
    | nil => rw [pieces, hpieces]; rfl
    | cons w ws => rw [pieces, hpieces, List.modifyHead_cons, List.map_cons, hstrip]; rfl

theorem pieces_skipSeparators (s : List Char) : pieces (skipSeparators s) = pieces s := by
  induction s with
  | nil => rfl
  | cons c s ih =>
      by_cases hc : isSeparator c = true
      · have hskip : skipSeparators (c :: s) = skipSeparators s := by simp [skipSeparators, hc]
        rw [hskip, ih, pieces_separator hc]
      · have hskip : skipSeparators (c :: s) = c :: s := by simp [skipSeparators, hc]
        rw [hskip]

/-- A text that begins visibly is stripped of blanks at its end only. -/
theorem strip_spec (h : BeginsVisibly w) :
    ∃ b, w = strip w ++ b ∧ IsBlanks b ∧ EndsVisibly (strip w) := by
  rcases h with ⟨c, u, rfl, hc⟩
  have hspace : ¬ isSpace c = true := by
    simp only [isSeparator, Bool.or_eq_false_iff] at hc
    simp [hc.2]
  have hstrip : strip (c :: u) = (c :: u).rdropWhile isSpace := by
    rw [strip, List.dropWhile_cons, if_neg hspace]
  have hne : (c :: u).rdropWhile isSpace ≠ [] := by
    rw [Ne, List.rdropWhile_eq_nil_iff]
    intro hall
    exact hspace (hall c (by simp))
  have hlast := List.rdropWhile_last_not isSpace (c :: u) hne
  rw [hstrip]
  refine ⟨(c :: u).rtakeWhile isSpace, List.rdropWhile_append_rtakeWhile.symm,
    fun d hd => List.mem_rtakeWhile_imp hd, ?_⟩
  exact ⟨_, _, (List.dropLast_append_getLast hne).symm, by simpa using hlast⟩

/-- The first piece of a text that begins visibly. -/
theorem exists_piece (hs : BeginsVisibly s) :
    ∃ w b rest, s = w ++ (b ++ rest) ∧ Sealed w b rest ∧ EndsVisibly w ∧
      pieces s = w :: pieces rest := by
  have hparts : Parts (· == ',') .outside s _ _ := parts_skipUntil rfl s
  generalize (skipUntil (· == ',') false s).1 = a at hparts
  generalize (skipUntil (· == ',') false s).2 = r at hparts
  rcases hparts with ⟨rfl, hwhole, hends⟩
  have ha : BeginsVisibly a := by
    rcases hs with ⟨c, u, hu, hc⟩
    cases a with
    | nil =>
        -- the text would begin with a comma
        rcases hends with rfl | ⟨_, d, t, rfl, hd⟩
        · cases hu
        · have hdc : d = c := by simpa using congrArg List.head? hu
          simp only [isSeparator, Bool.or_eq_false_iff] at hc
          simp [← hdc, hd] at hc
    | cons d a =>
        have hdc : d = c := by simpa using congrArg List.head? hu
        exact ⟨d, a, rfl, hdc ▸ hc⟩
  rcases strip_spec ha with ⟨b, hsplit, hb, hw⟩
  have hnonempty : (strip a).isEmpty = false := by simpa using hw.ne_nil
  have hseal : Sealed (strip a) b r := by
    rw [hsplit] at hwhole
    refine ⟨(whole_append.1 hwhole).1, hb, ?_⟩
    rcases hends with rfl | ⟨hout, d, t, rfl, hd⟩
    · exact .inl rfl
    · refine .inr ⟨?_, t, by simpa using hd⟩
      -- blanks do not lead out of quotes
      by_contra hin
      rw [hsplit, Mode.behind_append] at hout
      exact Mode.behind_ne_outside hin (fun e he => ne_of_isSpace (hb e he) rfl) hout
  refine ⟨strip a, b, r, by rw [← List.append_assoc, ← hsplit], hseal, hw, ?_⟩
  rcases hends with rfl | ⟨hout, d, t, rfl, hd⟩
  · have hnil : pieces [] = [] := rfl
    rw [hnil, pieces, List.append_nil, cut_of_whole hwhole, List.map_singleton, List.filter_singleton,
      hnonempty]
    rfl
  · have hcomma : d = ',' := by simpa using hd
    subst hcomma
    rw [pieces_separator rfl, pieces, cut_append hwhole hout, List.map_cons]
    simp [hnonempty, pieces]

theorem pieces_of_nil (h : skipSeparators s = []) : pieces s = [] := by
  rw [← pieces_skipSeparators, h]
  rfl

/-- A text that is not all separators has a first piece, and a shorter text behind it. -/
theorem exists_first_piece {c : Char} (h : skipSeparators s = c :: t) :
    ∃ w b rest, c :: t = w ++ (b ++ rest) ∧ Sealed w b rest ∧ EndsVisibly w ∧
      pieces s = w :: pieces rest ∧ rest.length < s.length := by
  have hc := skipSeparators_cons h
  rcases exists_piece ⟨c, t, rfl, hc.1⟩ with ⟨w, b, rest, hs, hseal, hw, hpieces⟩
  refine ⟨w, b, rest, hs, hseal, hw, ?_, ?_⟩
  · rw [← pieces_skipSeparators, h, hpieces]
  · have hpos := List.length_pos_of_ne_nil hw.ne_nil
    have hlen := congrArg List.length hs
    simp only [List.length_append] at hlen
    omega

theorem elements_of_nil (h : skipSeparators s = []) : elements s = [] := by
  unfold elements
  split
  · rfl
  · rename_i hs
    simp [h] at hs

theorem elements_of_cons {c : Char} (h : skipSeparators s = c :: t) :
    elements s = (element (c :: t)).1 :: elements (element (c :: t)).2 := by
  rw [elements]
  split
  · rename_i hs
    simp [h] at hs
  · rename_i d u hs
    rw [h] at hs
    cases hs
    rfl

/-- The loop over the elements reads what the pieces spell. -/
theorem reads_iff (s : List Char) (current : Option Challenge) (cs : List Challenge) :
    Reads current (pieces s) cs ↔ assemble current (elements s) = cs := by
  -- both readings take one piece off the front, and leave the text behind it
  induction hn : s.length using Nat.strongRecOn generalizing s current cs with
  | ind n ih =>
      cases hskip : skipSeparators s with
      | nil =>
          rw [elements_of_nil hskip, pieces_of_nil hskip]
          constructor
          · intro h
            cases h
            cases current <;> rfl
          · rintro rfl
            cases current <;> exact .done
      | cons c t =>
          rcases exists_first_piece hskip with ⟨w, b, rest, hs, hseal, hw, hpieces, hlt⟩
          have hshort : rest.length < n := hn ▸ hlt
          rw [hpieces, elements_of_cons hskip, hs]
          constructor
          · intro h
            cases h with
            | piece hturn hrest =>
                have hstep := hseal.turn hw hturn
                rw [hstep.1, hstep.2, (ih _ hshort _ _ _ rfl).1 hrest]
          · rintro rfl
            rcases exists_turn w current with ⟨ended, current', hturn⟩
            have hstep := hseal.turn hw hturn
            rw [hstep.1, hstep.2]
            exact .piece hturn ((ih _ hshort _ _ _ rfl).2 rfl)

/-- The challenges of header values are those that the pieces of the joined list spell. -/
theorem reads_iff_parseAll_eq (values : List String) (cs : List Challenge) :
    Reads none (pieces (joined values)) cs ↔ parseAll values = cs :=
  reads_iff (joined values) none cs

end Challenge
end Countersign
