import Countersign.Proofs.ChallengeWriting

/-!
# Challenge spacing — blanks and commas between parameters

The parameters of a challenge may be separated by blanks or by commas.  The two are not the same to the
reader: what stands between two commas is read on its own, and there a parameter has to stand alone.
So parameters strung together by blanks are read where they share their piece with the scheme, and are
passed over in every later piece.

* `Challenge.Gap`, `Challenge.spaced` — a challenge written with any gaps between its parameters;
* `Challenge.runs`, `Challenge.kept` — the parameters piece by piece, and those the reader keeps;
* `Challenge.Strung` — the text of one piece;
* `Challenge.parse_spaced` — what is read from a challenge with any gaps.
-/

namespace Countersign
namespace Challenge

open Text Header

/-! ## Gaps -/

/-- What stands between two parameters. -/
inductive Gap where
  | blanks (b : List Char)
  | comma (before after : List Char)
deriving DecidableEq, Repr

namespace Gap

def text : Gap → List Char
  | .blanks b => b
  | .comma before after => before ++ ',' :: after

/-- One or more blanks, or a comma with any blanks around it. -/
def Legal : Gap → Prop
  | .blanks b => b ≠ [] ∧ IsBlanks b
  | .comma before after => IsBlanks before ∧ IsBlanks after

/-- The gap ends a piece. -/
def Cuts : Gap → Prop
  | .blanks _ => False
  | .comma _ _ => True

end Gap

/-- Parameters with the gaps before them. -/
abbrev Tail := List (Gap × String × String)

/-- A scheme with blanks and parameters, and the gap before each parameter but the first. -/
def spaced (scheme : String) (b : List Char) (p : String × String) (rest : Tail) : String :=
  String.ofList (scheme.toList ++ b ++ displayParameter p ++
    rest.flatMap fun q => q.1.text ++ displayParameter q.2)

/-- The parameters up to the first comma, and those of every later piece. -/
def runs (p : String × String) : Tail → List (String × String) × List (List (String × String))
  | [] => ([p], [])
  | (.blanks _, q) :: rest => (p :: (runs q rest).1, (runs q rest).2)
  | (.comma _ _, q) :: rest => ([p], (runs q rest).1 :: (runs q rest).2)

/-- The parameters of the pieces that hold only one. -/
def alone (pieces : List (List (String × String))) : List (String × String) :=
  (pieces.filter (·.length = 1)).flatten

/-- The parameters before the first comma, and every later one that stands alone between commas. -/
def kept (p : String × String) (rest : Tail) : List (String × String) :=
  (runs p rest).1 ++ alone (runs p rest).2

/-! ### Pieces and gaps -/

variable {p : String × String} {rest : Tail}

theorem runs_flatten (p : String × String) (rest : Tail) :
    (runs p rest).1 ++ (runs p rest).2.flatten = p :: rest.map Prod.snd := by
  induction rest generalizing p with
  | nil => rfl
  | cons q rest ih =>
      rcases q with ⟨gap, q⟩
      have htail := ih q
      cases gap with
      | blanks b => simpa [runs] using htail
      | comma before after => simpa [runs] using htail

theorem runs_fst_ne_nil (p : String × String) (rest : Tail) : (runs p rest).1 ≠ [] := by
  cases rest with
  | nil => simp [runs]
  | cons q rest =>
      rcases q with ⟨gap, q⟩
      cases gap with
      | blanks b => simp [runs]
      | comma before after => simp [runs]

theorem runs_snd_ne_nil (p : String × String) (rest : Tail) :
    ∀ ps ∈ (runs p rest).2, ps ≠ [] := by
  induction rest generalizing p with
  | nil => simp [runs]
  | cons q rest ih =>
      rcases q with ⟨gap, q⟩
      cases gap with
      | blanks b => simpa [runs] using ih q
      | comma before after =>
          intro ps hps
          rcases List.mem_cons.1 hps with rfl | hps
          · exact runs_fst_ne_nil q rest
          · exact ih q ps hps

theorem alone_sublist (pieces : List (List (String × String))) :
    (alone pieces).Sublist pieces.flatten := by
  induction pieces with
  | nil => exact .slnil
  | cons ps pieces ih =>
      by_cases hps : ps.length = 1
      · have halone : alone (ps :: pieces) = ps ++ alone pieces := by simp [alone, hps]
        rw [halone]
        exact ih.append_left ps
      · have halone : alone (ps :: pieces) = alone pieces := by simp [alone, hps]
        rw [halone]
        exact ih.trans (List.sublist_append_right ps _)

theorem kept_sublist (p : String × String) (rest : Tail) :
    (kept p rest).Sublist (p :: rest.map Prod.snd) := by
  rw [← runs_flatten]
  exact (alone_sublist _).append_left _

/-- Everything is kept only if every later piece holds one parameter. -/
theorem kept_eq_iff (p : String × String) (rest : Tail) :
    kept p rest = p :: rest.map Prod.snd ↔ ∀ ps ∈ (runs p rest).2, ps.length = 1 := by
  have hall : ∀ pieces : List (List (String × String)), (∀ ps ∈ pieces, ps ≠ []) →
      (alone pieces = pieces.flatten ↔ ∀ ps ∈ pieces, ps.length = 1) := by
    intro pieces hne
    induction pieces with
    | nil => simp [alone]
    | cons ps pieces ih =>
        have htail := ih fun qs hqs => hne qs (.tail _ hqs)
        by_cases hps : ps.length = 1
        · have halone : alone (ps :: pieces) = ps ++ alone pieces := by simp [alone, hps]
          simp [halone, hps, htail]
        · -- what is left out makes the kept list shorter
          have halone : alone (ps :: pieces) = alone pieces := by simp [alone, hps]
          have hshort := (alone_sublist pieces).length_le
          have hpos := List.length_pos_of_ne_nil (hne ps (.head _))
          constructor
          · intro heq
            have hlen := congrArg List.length (halone ▸ heq)
            rw [List.flatten_cons, List.length_append] at hlen
            omega
          · intro hone
            exact absurd (hone ps (.head _)) hps
  rw [← runs_flatten, kept, List.append_cancel_left_eq]
  exact hall _ (runs_snd_ne_nil p rest)

/-- No later piece holds two parameters when only commas follow the first comma. -/
theorem runs_alone_iff (p : String × String) (rest : Tail) :
    (∀ ps ∈ (runs p rest).2, ps.length = 1) ↔
      rest.Pairwise fun q r => q.1.Cuts → r.1.Cuts := by
  have hcut : ∀ (rest : Tail) (p : String × String),
      ((runs p rest).1.length = 1 ∧ ∀ ps ∈ (runs p rest).2, ps.length = 1) ↔
        ∀ q ∈ rest, q.1.Cuts := by
    intro rest
    induction rest with
    | nil => simp [runs]
    | cons q rest ih =>
        intro p
        rcases q with ⟨gap, q⟩
        cases gap with
        | blanks b =>
            have hne := runs_fst_ne_nil q rest
            simp [runs, Gap.Cuts, hne]
        | comma before after => simp [runs, Gap.Cuts, ih q]
  induction rest generalizing p with
  | nil => simp [runs]
  | cons q rest ih =>
      rcases q with ⟨gap, q⟩
      cases gap with
      | blanks b => simp [runs, Gap.Cuts, ih q]
      | comma before after =>
          have hhere := hcut rest q
          have hweak : (∀ r ∈ rest, r.1.Cuts) → rest.Pairwise fun q r => q.1.Cuts → r.1.Cuts := by
            intro hall
            exact List.pairwise_of_forall_mem_list fun _ _ r hr _ => hall r hr
          simp only [runs, List.mem_cons, forall_eq_or_imp, hhere, List.pairwise_cons, Gap.Cuts,
            forall_const]
          exact ⟨fun hall => ⟨hall, hweak hall⟩, fun h => h.1⟩

/-! ## The text of a piece -/

/-- Parameters with blanks between them. -/
inductive Strung : List Char → List (String × String) → Prop where
  | one (p : String × String) : Strung (displayParameter p) [p]
  | more {p : String × String} {b w : List Char} {ps : List (String × String)} (hne : b ≠ [])
      (hb : IsBlanks b) (h : Strung w ps) : Strung (displayParameter p ++ (b ++ w)) (p :: ps)

/-- The written form of a parameter can be read. -/
def Legible (p : String × String) : Prop := IsToken p.1.toList ∧ Plain p.2.toList

variable {b w t : List Char} {ps : List (String × String)} {c c' : Challenge}

theorem Writable.legible (h : c.Writable) : ∀ p ∈ c.parameters.toList, Legible p :=
  fun p hp => ⟨h.names p hp, h.values p hp⟩

theorem Legible.assigns (h : Legible p) :
    Assigns (displayParameter p) p.1.toList p.2.toList :=
  assigns_displayParameter h.1 h.2

/-- The token at the front of a parameter is its name, and the sign comes next. -/
theorem Legible.token_eq (h : Legible p) (t : List Char) :
    token (displayParameter p ++ t) = some (p.1.toList, '=' :: (quoted p.2.toList ++ t)) :=
  token_eq_some.2 ⟨by simp [displayParameter], h.1, .cons (by decide)⟩

theorem Strung.exists_eq (h : Strung w ps) : ∃ p t, w = displayParameter p ++ t ∧ p ∈ ps := by
  cases h with
  | one p => exact ⟨p, [], (List.append_nil _).symm, by simp⟩
  | @more p b w ps _ _ _ => exact ⟨p, b ++ w, rfl, by simp⟩

/-- Behind a challenge, parameters with blanks between them complete it. -/
theorem Strung.items (h : Strung w ps) (hps : ∀ p ∈ ps, Legible p) (hne : b ≠ [])
    (hb : IsBlanks b) (hscheme : c'.scheme = c.scheme)
    (hlist : c'.parameters.toList = c.parameters.toList ++ ps) : Items c (b ++ w) c' := by
  induction h generalizing c b with
  | one p =>
      have hleads : Leads (Assigns · p.1.toList p.2.toList) (displayParameter p) [] :=
        ⟨_, (List.append_nil _).symm, (hps p (by simp)).assigns, pauses_nil⟩
      have hadded := toList_withParameter hlist
      have hsame : c' = c.withParameter p.1 p.2 :=
        eq_of_toList_eq hscheme (hlist.trans hadded.symm)
      rw [hsame]
      exact .parameter hne hb hleads (adds_withParameter c p) .done
  | @more p g w ps hgne hg _ ih =>
      have hleads : Leads (Assigns · p.1.toList p.2.toList) (displayParameter p ++ (g ++ w)) (g ++ w) :=
        ⟨_, rfl, (hps p (by simp)).assigns, pauses_blanks hgne hg⟩
      have hadded := toList_withParameter hlist
      have hrest : Items (c.withParameter p.1 p.2) (g ++ w) c' := by
        refine ih (fun q hq => hps q (.tail _ hq)) hgne hg hscheme ?_
        rw [hadded, hlist]
        simp
      exact .parameter hne hb hleads (adds_withParameter c p) hrest

/-- Away from its challenge, a piece with several parameters is none of the things that the reader
looks for, and is passed over. -/
theorem Strung.skipped (h : Strung w ps) (hps : ∀ p ∈ ps, Legible p) (hmany : ps.length ≠ 1)
    (current : Option Challenge) : Turn w current [] current := by
  cases h with
  | one p => simp at hmany
  | @more p b w ps hne hb _ =>
      have hp : Legible p := hps p (by simp)
      -- whatever token the piece begins with, it is the first name
      have hfront : ∀ {n t}, displayParameter p ++ (b ++ w) = n ++ t → IsToken n →
          Halts isTokenChar t → t = '=' :: (quoted p.2.toList ++ (b ++ w)) := by
        intro n t heq hn ht
        have htoken := token_eq_some.2 ⟨heq, hn, ht⟩
        rw [hp.token_eq, Option.some.injEq, Prod.mk.injEq] at htoken
        exact htoken.2.symm
      apply Turn.skipped
      · -- a parameter ends where the first one does, and there the next one follows
        intro n v hassigns
        have hwhole : param [','] (displayParameter p ++ (b ++ w)) = some ((n, v), []) :=
          (param_eq_some delimits_comma).2 ⟨_, (List.append_nil _).symm, hassigns, rfl⟩
        have hend : atDelimiter [','] (b ++ w) = true := by
          rcases List.exists_cons_of_ne_nil hne with ⟨x, b', rfl⟩
          simp [atDelimiter, hb x (by simp)]
        have hfirst : param [','] (displayParameter p ++ (b ++ w)) =
            some ((p.1.toList, p.2.toList), b ++ w) :=
          (param_eq_some delimits_comma).2 ⟨_, rfl, hp.assigns, hend⟩
        rw [hwhole] at hfirst
        have hnil : b ++ w = [] := by simpa using (congrArg (Option.map Prod.snd) hfirst).symm
        exact hne (List.append_eq_nil_iff.1 hnil).1
      · intro d hoffers
        generalize hs : displayParameter p ++ (b ++ w) = s at hoffers
        cases hoffers with
        | @mk scheme t c hscheme hitems =>
            have hpauses := hitems.pauses
            have hhalts : Halts isTokenChar t := fun x hx => isTokenChar_of_isSpace (hpauses x hx)
            rw [hfront hs hscheme hhalts] at hpauses
            exact absurd (hpauses '=' rfl) (by decide)
      · rintro ⟨scheme, x, t, hs, hscheme, hx⟩
        have heq := hfront hs hscheme (.cons (isTokenChar_of_isSpace hx))
        have hsign : x = '=' := by simpa using congrArg List.head? heq
        rw [hsign] at hx
        exact absurd hx (by decide)

/-- Of the pieces behind the first one, those with one parameter count. -/
theorem reads_runs {ws : List (List Char)} {pss : List (List (String × String))}
    (h : List.Forall₂ Strung ws pss) (hpss : ∀ p ∈ pss.flatten, Legible p)
    (hscheme : c'.scheme = c.scheme)
    (hlist : c'.parameters.toList = c.parameters.toList ++ alone pss) :
    Reads (some c) ws [c'] := by
  induction h generalizing c with
  | nil =>
      have hsame : c' = c := eq_of_toList_eq hscheme (by simpa [alone] using hlist)
      rw [hsame]
      exact .done
  | @cons w ps ws pss hw _ ih =>
      have hps : ∀ p ∈ ps, Legible p := fun p hp => hpss p (by simp [hp])
      have hrest : ∀ p ∈ pss.flatten, Legible p := by
        intro p hp
        apply hpss
        rw [List.flatten_cons]
        exact List.mem_append_right _ hp
      by_cases hone : ps.length = 1
      · have halone : alone (ps :: pss) = ps ++ alone pss := by simp [alone, hone]
        rw [halone] at hlist
        cases hw with
        | one p =>
            have hadded := toList_withParameter hlist
            have htail : Reads (some (c.withParameter p.1 p.2)) ws [c'] := by
              refine ih hrest hscheme ?_
              rw [hadded, hlist]
              simp
            exact .piece (.adds (hps p (by simp)).assigns (adds_withParameter c p)) htail
        | more _ _ h => cases h <;> simp at hone
      · have halone : alone (ps :: pss) = alone pss := by simp [alone, hone]
        rw [halone] at hlist
        exact .piece (hw.skipped hps hone _) (ih hrest hscheme hlist)

/-! ## The text of a challenge -/

theorem strip_append_blanks (hbegins : BeginsVisibly w) (hends : EndsVisibly w) (hb : IsBlanks b) :
    strip (w ++ b) = w := by
  have hfront : (w ++ b).dropWhile isSpace = w ++ b := by
    rcases hbegins with ⟨x, u, rfl, hx⟩
    simp only [isSeparator, Bool.or_eq_false_iff] at hx
    simp [hx.2]
  have hback : ((w ++ b).reverse).dropWhile isSpace = w.reverse := by
    rcases hends with ⟨u, x, rfl, hx⟩
    rw [List.reverse_append]
    exact dropWhile_eq (fun y hy => hb y (List.mem_reverse.1 hy)) (by simp [Halts, hx])
  rw [strip, hfront, List.rdropWhile, hback, List.reverse_reverse]

/-- Blanks around a comma belong to no piece. -/
theorem pieces_comma {b' : List Char} (hw : Solid w) (hb : IsBlanks b) (hb' : IsBlanks b') :
    pieces (w ++ (b ++ ',' :: b') ++ t) = w :: pieces t := by
  have hlevel := hw.level.append hb.level
  have hne : w.isEmpty = false := by simpa using hw.ends.ne_nil
  have hblanks : pieces (b' ++ t) = pieces t := by
    induction b' with
    | nil => rfl
    | cons x b' ih =>
        have hx : isSeparator x = true := by simp [isSeparator, hb' x (by simp)]
        rw [List.cons_append, pieces_separator hx]
        exact ih fun y hy => hb' y (.tail _ hy)
  calc
    pieces (w ++ (b ++ ',' :: b') ++ t)
      = pieces ((w ++ b) ++ ',' :: (b' ++ t)) := by simp
    _ = w :: pieces (b' ++ t) := by
        rw [pieces, cut_append hlevel.whole hlevel.closed, List.map_cons,
          strip_append_blanks hw.begins hw.ends hb]
        simp [pieces, hne]
    _ = w :: pieces t := by rw [hblanks]

/-- The pieces of a text with gaps are its runs.  Whatever leads the text stays with the first one. -/
theorem exists_pieces (hp : Legible p) (hrest : ∀ q ∈ rest, q.1.Legal ∧ Legible q.2) :
    ∃ w ws, Strung w (runs p rest).1 ∧ List.Forall₂ Strung ws (runs p rest).2 ∧
      ∀ lead, Level lead → BeginsVisibly (lead ++ displayParameter p) →
        pieces (lead ++ displayParameter p ++
          rest.flatMap fun q => q.1.text ++ displayParameter q.2) = (lead ++ w) :: ws := by
  have hsolid : ∀ {lead p}, Legible p → Level lead → BeginsVisibly (lead ++ displayParameter p) →
      Solid (lead ++ displayParameter p) := by
    intro lead p hp hlevel hbegins
    exact ⟨hlevel.append hp.assigns.level, hbegins, hp.assigns.endsVisibly.append⟩
  induction rest generalizing p with
  | nil =>
      refine ⟨_, [], .one p, .nil, ?_⟩
      intro lead hlevel hbegins
      simpa using pieces_solid (hsolid hp hlevel hbegins)
  | cons q rest ih =>
      rcases q with ⟨gap, q⟩
      have hq : gap.Legal ∧ Legible q := hrest (gap, q) (.head _)
      rcases ih hq.2 (fun r hr => hrest r (.tail _ hr)) with ⟨w, ws, hw, hws, hpieces⟩
      cases gap with
      | blanks b =>
          refine ⟨_, ws, .more hq.1.1 hq.1.2 hw, hws, ?_⟩
          intro lead hlevel hbegins
          -- the parameter and its blanks lead what follows
          have hlead := (hlevel.append hp.assigns.level).append hq.1.2.level
          have hnext := hpieces (lead ++ displayParameter p ++ b) hlead hbegins.append.append
          simpa [Gap.text] using hnext
      | comma before after =>
          refine ⟨_, w :: ws, .one p, .cons hw hws, ?_⟩
          intro lead hlevel hbegins
          have hcut := pieces_comma (hsolid hp hlevel hbegins) hq.1.1 hq.1.2
            (t := displayParameter q ++ rest.flatMap fun q => q.1.text ++ displayParameter q.2)
          have hnext := hpieces [] (level_of_forall (by simp)) hq.2.assigns.beginsVisibly
          rw [List.nil_append, List.nil_append] at hnext
          rw [hnext] at hcut
          simpa [Gap.text] using hcut

theorem joined_singleton {v : String} (h : Trimmed v.toList) : joined [v] = v.toList := by
  have hne : v.toList.isEmpty = false := by simpa using h.ne_nil
  simp [joined, h.trimChars_eq, hne]

theorem trimmed_gaps (hw : Trimmed w) (hrest : ∀ q ∈ rest, Legible q.2) :
    Trimmed (w ++ rest.flatMap fun q => q.1.text ++ displayParameter q.2) := by
  induction rest generalizing w with
  | nil => simpa using hw
  | cons q rest ih =>
      have hq := trimmed_displayParameter (hrest q (.head _)).1
      have hnext := ih (hw.between hq q.1.text) fun r hr => hrest r (.tail _ hr)
      simpa using hnext

/-- A challenge is read from its text with any gaps: the parameters of the first piece complete it, and
so does each later one that stands alone.  Therefore all of them do exactly when no blanks follow a
comma. -/
theorem parse_spaced (h : c.Writable) (hlist : c.parameters.toList = p :: rest.map Prod.snd)
    (hne : b ≠ []) (hb : IsBlanks b) (hrest : ∀ q ∈ rest, q.1.Legal) :
    (∃ d, parse (spaced c.scheme b p rest) = [d] ∧ d.scheme = c.scheme ∧
      d.parameters.toList = kept p rest) ∧
    (parse (spaced c.scheme b p rest) = [c] ↔ rest.Pairwise fun q r => q.1.Cuts → r.1.Cuts) := by
  have hlegible : ∀ q ∈ p :: rest.map Prod.snd, Legible q := hlist ▸ h.legible
  have hp : Legible p := hlegible p (.head _)
  have htail : ∀ q ∈ rest, Legible q.2 := fun q hq =>
    hlegible q.2 (.tail _ (List.mem_map_of_mem hq))
  -- what the reader keeps has each name once, as the challenge has
  have hnodup : ∀ {ps : List (String × String)}, ps.Sublist (p :: rest.map Prod.snd) →
      (ps.map Prod.fst).Nodup := by
    intro ps hps
    exact (hps.map Prod.fst).nodup (hlist ▸ c.parameters.nodup)
  have hfirst : (runs p rest).1.Sublist (p :: rest.map Prod.snd) := by
    rw [← runs_flatten]
    exact List.sublist_append_left _ _
  have hruns : ∀ q ∈ (runs p rest).1 ++ (runs p rest).2.flatten, Legible q := by
    rw [runs_flatten]
    exact hlegible
  let opened : Challenge := ⟨c.scheme, ⟨(runs p rest).1, hnodup hfirst⟩⟩
  let d : Challenge := ⟨c.scheme, ⟨kept p rest, hnodup (kept_sublist p rest)⟩⟩
  have hparse : parse (spaced c.scheme b p rest) = [d] := by
    rcases exists_pieces hp (fun q hq => ⟨hrest q hq, htail q hq⟩) with ⟨w, ws, hw, hws, hpieces⟩
    have hopened : Offers (c.scheme.toList ++ (b ++ w)) opened := by
      refine .mk h.scheme (hw.items (fun q hq => hruns q (List.mem_append_left _ hq)) hne hb ?_ rfl)
      exact String.ofList_toList.symm
    have hno : ∀ n v, ¬ Assigns (c.scheme.toList ++ (b ++ w)) n v := by
      intro n v
      rcases hw.exists_eq with ⟨q, t, rfl, hq⟩
      exact not_assigns_displayParameter h.scheme hne hb (hruns q (List.mem_append_left _ hq)).1
    have hreads : Reads (some opened) ws [d] :=
      reads_runs hws (fun q hq => hruns q (List.mem_append_right _ hq)) rfl rfl
    have hpiece : Reads none ((c.scheme.toList ++ (b ++ w)) :: ws) [d] :=
      .piece (.opens hno hopened) hreads
    have htrimmed : Trimmed (spaced c.scheme b p rest).toList := by
      rw [spaced, String.toList_ofList]
      exact trimmed_gaps ((trimmed_token h.scheme).between (trimmed_displayParameter hp.1) b) htail
    have htext := hpieces (c.scheme.toList ++ b) (h.scheme.level.append hb.level)
      h.scheme.beginsVisibly.append.append
    apply (reads_iff _ none _).1
    rw [joined_singleton htrimmed, spaced, String.toList_ofList, htext, List.append_assoc]
    exact hpiece
  refine ⟨⟨d, hparse, rfl, rfl⟩, ?_⟩
  calc
    parse (spaced c.scheme b p rest) = [c] ↔ d = c := by rw [hparse, List.singleton_inj]
    _ ↔ kept p rest = p :: rest.map Prod.snd := by
        constructor
        · intro hsame
          rw [← hlist, ← hsame]
        · intro hall
          exact eq_of_toList_eq rfl (hall.trans hlist.symm)
    _ ↔ rest.Pairwise fun q r => q.1.Cuts → r.1.Cuts :=
        (kept_eq_iff p rest).trans (runs_alone_iff p rest)

instance decidableLegal (gap : Gap) : Decidable gap.Legal :=
  match gap with
  | .blanks b => decidable_of_iff (b ≠ [] ∧ b.all isSpace) (by simp [Gap.Legal, IsBlanks])
  | .comma before after =>
    decidable_of_iff (before.all isSpace ∧ after.all isSpace) (by simp [Gap.Legal, IsBlanks])

/-- Gaps of both kinds: two parameters lead, one stands alone, and two share a later piece. -/
def mixedGaps : Tail :=
  [(.blanks [' ', '\t'], "b", "2, 3"), (.comma [' '] [], "c", "\\"), (.comma [] ['\t'], "d", "4"),
    (.blanks [' '], "e", "5")]

/-- The challenge that is written with these gaps. -/
def mixed : Challenge := ⟨"Basic", Parameters.ofList (("a", "1") :: mixedGaps.map Prod.snd)⟩

example : kept ("a", "1") mixedGaps = [("a", "1"), ("b", "2, 3"), ("c", "\\")] := by decide

theorem parse_spaced_mixed :
    (mixed.Writable ∧ mixed.parameters.toList = ("a", "1") :: mixedGaps.map Prod.snd ∧
      ∀ q ∈ mixedGaps, q.1.Legal) ∧
    ∃ d, parse (spaced "Basic" [' '] ("a", "1") mixedGaps) = [d] ∧ d.scheme = "Basic" ∧
      d.parameters.toList = [("a", "1"), ("b", "2, 3"), ("c", "\\")] := by
  have hwritable : mixed.Writable := by decide +kernel
  have hlist : mixed.parameters.toList = ("a", "1") :: mixedGaps.map Prod.snd := by decide +kernel
  have hlegal : ∀ q ∈ mixedGaps, q.1.Legal := by decide
  refine ⟨⟨hwritable, hlist, hlegal⟩, ?_⟩
  exact (parse_spaced hwritable hlist (b := [' ']) (by simp) (by simp [IsBlanks, isSpace]) hlegal).1

/-- Blanks behind a comma cost both parameters that they separate. -/
theorem blanks_behind_comma :
    (⟨"Basic", Parameters.ofList [("a", "1"), ("b", "2"), ("c", "3")]⟩ : Challenge).Writable ∧
    (∀ q ∈ [(Gap.comma [] [' '], "b", "2"), (.blanks [' '], "c", "3")], q.1.Legal) ∧
    spaced "Basic" [' '] ("a", "1") [(.comma [] [' '], "b", "2"), (.blanks [' '], "c", "3")] =
      "Basic a=\"1\", b=\"2\" c=\"3\"" ∧
    parse "Basic a=\"1\", b=\"2\" c=\"3\"" = [⟨"Basic", Parameters.ofList [("a", "1")]⟩] ∧
    parse "Basic a=\"1\", b=\"2\" c=\"3\"" ≠
      [⟨"Basic", Parameters.ofList [("a", "1"), ("b", "2"), ("c", "3")]⟩] := by
  have hparse : parse "Basic a=\"1\", b=\"2\" c=\"3\"" =
      [⟨"Basic", Parameters.ofList [("a", "1")]⟩] := by decide +kernel
  refine ⟨by decide +kernel, by decide, by decide +kernel, hparse, ?_⟩
  rw [hparse]
  decide +kernel

end Challenge
end Countersign
