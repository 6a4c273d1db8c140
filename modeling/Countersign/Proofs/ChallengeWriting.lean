import Countersign.Message
import Countersign.Proofs.ChallengeReading

/-!
# Challenge writing — what is written reads back

A challenge is written with its values in quotes, so that a value may hold anything that separates
challenges.  Several challenges share one header value, or lie in several; the reader joins them all
again.  This module shows that nothing is lost on the way:

* `Challenge.Writable` — challenges whose written form can be read;
* `Challenge.Writable.reads` — the pieces of a written challenge open it and complete it;
* `Challenge.Reads.writable` — whatever is read can be written;
* `Challenge.read_back` — writing and reading are inverse, however the challenges are grouped.
-/

namespace Countersign

namespace Header

open Text

variable {n v w : List Char}

/-- The characters of a value that can be quoted. -/
def Plain (v : List Char) : Prop := ∀ x ∈ v, x = '\t' ∨ isControl x = false

theorem plain_append {u : List Char} : Plain (v ++ u) ↔ Plain v ∧ Plain u := by
  simp only [Plain, List.mem_append, or_imp, forall_and]

theorem plain_intercalate {sep : List Char} {ws : List (List Char)} (hsep : Plain sep)
    (hws : ∀ w ∈ ws, Plain w) : Plain (sep.intercalate ws) := by
  induction ws with
  | nil => simp [Plain]
  | cons w ws ih =>
      have hw := hws w (.head _)
      have hrest := ih fun u hu => hws u (.tail _ hu)
      cases ws with
      | nil => simpa using hw
      | cons w' ws =>
          rw [List.intercalate_cons_cons]
          exact plain_append.2 ⟨plain_append.2 ⟨hw, hsep⟩, hrest⟩

theorem Plain.mono (h : Plain w) (hv : ∀ x ∈ v, x ∈ w) : Plain v :=
  fun x hx => h x (hv x hx)

instance (v : List Char) : Decidable (Plain v) :=
  decidable_of_iff ((v.all fun x => x = '\t' || !isControl x) = true) (by simp [Plain])

/-! ## Quoting -/

theorem quotes_escape (h : Plain v) : Quotes (escape v ++ ['"']) v := by
  induction v with
  | nil => exact .closing
  | cons c v ih =>
      have hrest : Quotes (escape v ++ ['"']) v := ih (h.mono fun x hx => .tail _ hx)
      cases hc : needsEscape c with
      | true =>
          have hescape : escape (c :: v) = '\\' :: c :: escape v := by simp [escape, hc]
          rw [hescape]
          exact .hidden hrest
      | false =>
          have hescape : escape (c :: v) = c :: escape v := by simp [escape, hc]
          have hplain : c ≠ '"' ∧ c ≠ '\\' := by simpa [needsEscape] using hc
          rw [hescape]
          exact .plain hplain.1 hplain.2 (h c (.head _)) hrest

theorem denotes_quoted (h : Plain v) : Denotes (quoted v) v := .quoted (quotes_escape h)

/-- A quoted text adds backslashes to its value, and takes nothing away. -/
theorem Quotes.mem (h : Quotes w v) : ∀ x ∈ v, x ∈ w := by
  induction h with
  | closing => exact fun x hx => absurd hx (by simp)
  | hidden _ ih =>
      intro x hx
      rcases List.mem_cons.1 hx with rfl | hx
      · simp
      · simp [ih x hx]
  | plain _ _ _ _ ih =>
      intro x hx
      rcases List.mem_cons.1 hx with rfl | hx
      · simp
      · simp [ih x hx]

theorem Assigns.mem (h : Assigns w n v) : ∀ x ∈ v, x ∈ w := by
  rcases h with ⟨_, _, _, hvalue⟩
  intro x hx
  cases hvalue with
  | quoted hq => simp [hq.mem x hx]
  | bare _ _ => simp [hx]

theorem Assigns.isToken (h : Assigns w n v) : IsToken n := by
  rcases h with ⟨hname, _, _, _⟩
  exact hname

/-- A token that is followed by something else is no name of a parameter unless a sign comes next. -/
theorem not_assigns_of_token {t : List Char} (hw : IsToken w) (ht : Halts isTokenChar t)
    (hsign : ∀ b r, IsBlanks b → t ≠ b ++ '=' :: r) : ¬ Assigns (w ++ t) n v := by
  intro h
  generalize hs : w ++ t = s at h
  rcases h with @⟨_, b, b', x, _, hname, hb, hb', _⟩
  have hbehind : Halts isTokenChar (b ++ '=' :: (b' ++ x)) :=
    .append (fun c hc => isTokenChar_of_isSpace (hb c hc)) (.cons (by decide))
  have hsplit : w ++ t = n ++ (b ++ '=' :: (b' ++ x)) := by simpa using hs
  -- both sides begin with a run of token characters, which can end at one place only
  have hrun : w = n := by
    calc
      w = (w ++ t).takeWhile isTokenChar := (takeWhile_eq hw.2 ht).symm
      _ = n := by rw [hsplit, takeWhile_eq hname.2 hbehind]
  subst hrun
  exact hsign b (b' ++ x) hb (List.append_cancel_left hsplit)

end Header

namespace Challenge

open Text Header

/-! ## The written form -/

/-- The written form of a challenge can be read: its scheme and the names of its parameters are tokens,
and no value holds a control character other than a tab. -/
structure Writable (c : Challenge) : Prop where
  scheme : IsToken c.scheme.toList
  names : ∀ p ∈ c.parameters.toList, IsToken p.1.toList
  values : ∀ p ∈ c.parameters.toList, Plain p.2.toList

/-- The header value that holds some challenges. -/
def listed (cs : List Challenge) : String := ", ".intercalate (cs.map display)

/-- The pieces of the written form. -/
def written (c : Challenge) : List (List Char) :=
  match c.parameters.toList with
  | [] => [c.scheme.toList]
  | p :: ps => (c.scheme.toList ++ ' ' :: displayParameter p) :: ps.map displayParameter

def separator : List Char := [',', ' ']

theorem written_ne_nil (c : Challenge) : c.written ≠ [] := by
  unfold written
  split <;> simp

theorem displayChars_eq (c : Challenge) : c.displayChars = separator.intercalate c.written := by
  have hrest : ∀ (ps : List (String × String)) (w : List Char),
      w ++ ps.flatMap (fun q => ',' :: ' ' :: displayParameter q) =
        separator.intercalate (w :: ps.map displayParameter) := by
    intro ps
    induction ps with
    | nil => simp
    | cons p ps ih =>
        intro w
        rw [List.map_cons, List.intercalate_cons_cons, ← ih]
        simp [separator]
  unfold displayChars written
  cases c.parameters.toList with
  | nil => simp
  | cons p ps => exact hrest ps _

section

variable {α : Type} (sep : List α)

theorem intercalate_append {gs hs : List (List α)} (hgs : gs ≠ []) (hhs : hs ≠ []) :
    sep.intercalate (gs ++ hs) = sep.intercalate gs ++ sep ++ sep.intercalate hs := by
  induction gs with
  | nil => exact absurd rfl hgs
  | cons g gs ih =>
      cases gs with
      | nil =>
          rcases List.exists_cons_of_ne_nil hhs with ⟨h, hs', rfl⟩
          simp
      | cons g' gs =>
          have htail : sep.intercalate (g' :: (gs ++ hs)) =
              sep.intercalate (g' :: gs) ++ sep ++ sep.intercalate hs := ih (by simp)
          rw [List.cons_append, List.cons_append, List.intercalate_cons_cons, htail,
            List.intercalate_cons_cons]
          simp

/-- Lists of lists can be joined one by one or all at once. -/
theorem intercalate_flatten {gss : List (List (List α))} (h : ∀ gs ∈ gss, gs ≠ []) :
    sep.intercalate (gss.map sep.intercalate) = sep.intercalate gss.flatten := by
  induction gss with
  | nil => rfl
  | cons gs gss ih =>
      have hgs : gs ≠ [] := h gs (.head _)
      have hrest := ih fun g hg => h g (.tail _ hg)
      cases gss with
      | nil => simp
      | cons gs' gss =>
          have hne : (gs' :: gss).flatten ≠ [] := by simp [h gs' (by simp)]
          calc
            sep.intercalate ((gs :: gs' :: gss).map sep.intercalate)
              = sep.intercalate gs ++ sep ++ sep.intercalate ((gs' :: gss).map sep.intercalate) :=
                List.intercalate_cons_cons
            _ = sep.intercalate gs ++ sep ++ sep.intercalate (gs' :: gss).flatten := by rw [hrest]
            _ = sep.intercalate (gs ++ (gs' :: gss).flatten) := (intercalate_append sep hgs hne).symm
            _ = sep.intercalate (gs :: gs' :: gss).flatten := rfl

end

/-! ## Trimming -/

/-- A text that nothing can be trimmed from. -/
structure Trimmed (w : List Char) : Prop where
  ne_nil : w ≠ []
  begins : Halts isBlank w
  ends : Halts isBlank w.reverse

variable {w t : List Char}

theorem halts_append {p : Char → Bool} (hne : w ≠ []) (h : Halts p w) : Halts p (w ++ t) := by
  cases w with
  | nil => exact absurd rfl hne
  | cons c w => exact .cons (h c (by simp))

theorem Trimmed.trimChars_eq (h : Trimmed w) : trimChars w = w := by
  have hfront : w.dropWhile isBlank = w := dropWhile_eq (w := []) (by simp) h.begins
  have hback : w.reverse.dropWhile isBlank = w.reverse := dropWhile_eq (w := []) (by simp) h.ends
  rw [trimChars, hfront, hback, List.reverse_reverse]

/-- Between two texts that begin and end visibly anything may stand. -/
theorem Trimmed.between {u : List Char} (h : Trimmed w) (hu : Trimmed u) (t : List Char) :
    Trimmed (w ++ t ++ u) where
  ne_nil := by simp [h.ne_nil]
  begins := by
    rw [List.append_assoc]
    exact halts_append h.ne_nil h.begins
  ends := by
    rw [List.reverse_append]
    exact halts_append (by simpa using hu.ne_nil) hu.ends

theorem trimmed_intercalate {ws : List (List Char)} (hne : ws ≠ []) (h : ∀ w ∈ ws, Trimmed w)
    (sep : List Char) : Trimmed (sep.intercalate ws) := by
  induction ws with
  | nil => exact absurd rfl hne
  | cons w ws ih =>
      cases ws with
      | nil => simpa using h w
      | cons w' ws =>
          rw [List.intercalate_cons_cons]
          exact (h w (.head _)).between (ih (by simp) fun x hx => h x (.tail _ hx)) sep

theorem isBlank_of_isTokenChar {c : Char} (h : isTokenChar c = true) : isBlank c = false := by
  rcases Bool.or_eq_true_iff.1 h with halnum | hsign
  · -- letters and digits lie where no blank does
    have hrange : 48 ≤ c.toNat ∧ c.toNat ≤ 122 := by
      have hclasses : (decide (c.val ≥ 65 ∧ c.val ≤ 90) ||
          (decide (c.val ≥ 97) && decide (c.val ≤ 122)) ||
          (decide (c.val ≥ 48) && decide (c.val ≤ 57))) = true := halnum
      simp only [Bool.or_eq_true, Bool.and_eq_true, decide_eq_true_eq, ge_iff_le,
        UInt32.le_iff_toNat_le] at hclasses
      have hval : c.toNat = c.val.toNat := rfl
      rw [hval]
      grind
    simp [isBlank]
    omega
  · have hall : (['!', '#', '$', '%', '&', '\'', '*', '+', '-', '.', '^', '_', '\x60', '|', '~'].all
        fun d => !isBlank d) = true := by decide
    simpa using List.all_eq_true.1 hall c (by simpa using hsign)

theorem trimmed_token (h : IsToken w) : Trimmed w where
  ne_nil := h.1
  begins := fun c hc => isBlank_of_isTokenChar (h.2 c (List.mem_of_mem_head? hc))
  ends := fun c hc =>
    isBlank_of_isTokenChar (h.2 c (List.mem_reverse.1 (List.mem_of_mem_head? hc)))

/-! ## One challenge -/

variable {c : Challenge} {p : String × String}

theorem assigns_displayParameter (hname : IsToken p.1.toList) (hvalue : Plain p.2.toList) :
    Assigns (displayParameter p) p.1.toList p.2.toList := by
  have h : Assigns (p.1.toList ++ [] ++ '=' :: [] ++ quoted p.2.toList) p.1.toList p.2.toList :=
    .mk hname isBlanks_nil isBlanks_nil (denotes_quoted hvalue)
  simpa [displayParameter] using h

theorem trimmed_displayParameter (hname : IsToken p.1.toList) : Trimmed (displayParameter p) := by
  have hquote : Trimmed ['"'] := ⟨by simp, .cons (by decide), .cons (by decide)⟩
  have h := (trimmed_token hname).between hquote ('=' :: '"' :: escape p.2.toList)
  simpa [displayParameter, quoted] using h

namespace Writable

/-- Every piece stands as one item in a list, and nothing can be trimmed from it. -/
theorem pieces (h : c.Writable) : ∀ w ∈ c.written, Solid w ∧ Trimmed w := by
  have hparameter : ∀ p ∈ c.parameters.toList,
      Solid (displayParameter p) ∧ Trimmed (displayParameter p) := by
    intro p hp
    exact ⟨(assigns_displayParameter (h.names p hp) (h.values p hp)).solid,
      trimmed_displayParameter (h.names p hp)⟩
  unfold written
  cases hlist : c.parameters.toList with
  | nil =>
      intro w hw
      rw [List.mem_singleton.1 hw]
      exact ⟨h.scheme.solid, trimmed_token h.scheme⟩
  | cons p ps =>
      rw [hlist] at hparameter
      intro w hw
      rcases List.mem_cons.1 hw with rfl | hw
      · -- the scheme shares its piece with the first parameter
        rcases hparameter p (.head _) with ⟨hsolid, htrimmed⟩
        have hblank : Level [' '] := IsBlanks.level (by simp [IsBlanks, isSpace])
        have hlevel := (h.scheme.level.append hblank).append hsolid.level
        refine ⟨⟨by simpa using hlevel, h.scheme.beginsVisibly.append, ?_⟩, ?_⟩
        · exact (hsolid.ends.append (w := [' '])).append
        · simpa using (trimmed_token h.scheme).between htrimmed [' ']
      · rcases List.mem_map.1 hw with ⟨q, hq, rfl⟩
        exact hparameter q (.tail _ hq)

end Writable

theorem adds_withParameter (c : Challenge) (p : String × String) :
    Adds c p.1.toList p.2.toList (c.withParameter p.1 p.2) := by
  refine adds_iff.2 ?_
  rw [String.ofList_toList, String.ofList_toList]

theorem eq_of_toList_eq {c' : Challenge} (hscheme : c'.scheme = c.scheme)
    (hlist : c'.parameters.toList = c.parameters.toList) : c' = c := by
  calc
    c' = ⟨c'.scheme, c'.parameters⟩ := rfl
    _ = c := by rw [hscheme, Parameters.eq_of_toList_eq hlist]

/-- The next parameter of a longer challenge is new, because a challenge has each name once. -/
theorem toList_withParameter {c' : Challenge} {ps : List (String × String)}
    (hlist : c'.parameters.toList = c.parameters.toList ++ p :: ps) :
    (c.withParameter p.1 p.2).parameters.toList = c.parameters.toList ++ [p] := by
  have hnew : p.1 ∉ c.parameters.toList.map Prod.fst := by
    have hnodup := c'.parameters.nodup
    rw [hlist, List.map_append, List.nodup_append] at hnodup
    intro hmem
    exact hnodup.2.2 p.1 hmem p.1 (by simp) rfl
  have hadd := c.parameters.toList_add p.1 p.2
  rwa [if_neg hnew] at hadd

/-- Parameters that are written behind a challenge complete it. -/
theorem reads_parameters {c' : Challenge} {ps : List (String × String)} {ws : List (List Char)}
    {cs : List Challenge} (hwritable : c'.Writable) (hscheme : c'.scheme = c.scheme)
    (hlist : c'.parameters.toList = c.parameters.toList ++ ps) (hrest : Reads (some c') ws cs) :
    Reads (some c) (ps.map displayParameter ++ ws) cs := by
  induction ps generalizing c with
  | nil =>
      have hsame : c' = c := eq_of_toList_eq hscheme (by simpa using hlist)
      exact hsame ▸ hrest
  | cons p ps ih =>
      have hp : p ∈ c'.parameters.toList := by simp [hlist]
      have hassigns := assigns_displayParameter (hwritable.names p hp) (hwritable.values p hp)
      have hadded := toList_withParameter hlist
      have htail := ih (c := c.withParameter p.1 p.2) hscheme (by rw [hadded, hlist]; simp)
      exact .piece (.adds hassigns (adds_withParameter c p)) htail

/-- A scheme with blanks and a text behind it is no parameter itself, if the text does not begin with
the sign. -/
theorem not_assigns_opening {scheme b x n v : List Char} (hscheme : IsToken scheme) (hne : b ≠ [])
    (hb : IsBlanks b) (hvisible : Halts isSpace x) (hsign : Halts (· == '=') x) :
    ¬ Assigns (scheme ++ (b ++ x)) n v := by
  have hhalts : Halts isTokenChar (b ++ x) := by
    rcases List.exists_cons_of_ne_nil hne with ⟨y, b, rfl⟩
    exact .cons (isTokenChar_of_isSpace (hb y (by simp)))
  apply not_assigns_of_token hscheme hhalts
  intro b' r hb' heq
  have hskip : x = '=' :: r := by
    calc
      x = skipBlanks (b ++ x) := (skipBlanks_append hb hvisible).symm
      _ = skipBlanks (b' ++ '=' :: r) := congrArg skipBlanks heq
      _ = '=' :: r := skipBlanks_append hb' (.cons (by decide))
  rw [hskip] at hsign
  exact absurd (hsign '=' rfl) (by decide)

theorem halts_displayParameter {f : Char → Bool} (hname : IsToken p.1.toList)
    (hf : ∀ x, isTokenChar x = true → f x = false) (t : List Char) :
    Halts f (displayParameter p ++ t) := by
  rcases List.exists_cons_of_ne_nil hname.1 with ⟨x, u, hx⟩
  have htoken : isTokenChar x = true := hname.2 x (by simp [hx])
  have hparameter : displayParameter p = x :: (u ++ '=' :: quoted p.2.toList) := by
    simp [displayParameter, hx]
  rw [hparameter]
  exact .cons (hf x htoken)

theorem not_assigns_displayParameter {scheme b t n v : List Char} (hscheme : IsToken scheme)
    (hne : b ≠ []) (hb : IsBlanks b) (hname : IsToken p.1.toList) :
    ¬ Assigns (scheme ++ (b ++ (displayParameter p ++ t))) n v := by
  apply not_assigns_opening hscheme hne hb
  · exact halts_displayParameter hname (fun x hx => isSpace_of_isTokenChar hx) t
  · apply halts_displayParameter hname
    intro x hx
    simpa using ne_of_isTokenChar hx (by decide)

/-- The pieces of a written challenge end what was open, open the challenge and complete it. -/
theorem Writable.reads (h : c.Writable) {current : Option Challenge} {ws : List (List Char)}
    {cs : List Challenge} (hrest : Reads (some c) ws cs) :
    Reads current (c.written ++ ws) (current.toList ++ cs) := by
  have hoffers : ∀ {t : List Char} {c₁ : Challenge}, Items ⟨c.scheme, .empty⟩ t c₁ →
      Offers (c.scheme.toList ++ t) c₁ := by
    intro t c₁ hitems
    refine .mk h.scheme ?_
    rwa [String.ofList_toList]
  unfold written
  cases hlist : c.parameters.toList with
  | nil =>
      have hbare : c = ⟨c.scheme, .empty⟩ :=
        congrArg (Challenge.mk c.scheme) (Parameters.eq_of_toList_eq hlist)
      have hoffer : Offers c.scheme.toList c := by
        have hdone : Items ⟨c.scheme, .empty⟩ [] c := hbare ▸ .done
        simpa using hoffers hdone
      have hno : ∀ n v, ¬ Assigns c.scheme.toList n v := by
        intro n v
        have hnone := not_assigns_of_token (n := n) (v := v) h.scheme .nil (by simp)
        rwa [List.append_nil] at hnone
      exact .piece (.opens hno hoffer) hrest
  | cons p ps =>
      have hp : p ∈ c.parameters.toList := by simp [hlist]
      have hassigns := assigns_displayParameter (h.names p hp) (h.values p hp)
      -- the first parameter shares its piece with the scheme, and is its only item
      have hitems : Items ⟨c.scheme, .empty⟩ ([' '] ++ displayParameter p)
          ((⟨c.scheme, .empty⟩ : Challenge).withParameter p.1 p.2) := by
        have hleads : Leads (Assigns · p.1.toList p.2.toList) (displayParameter p) [] :=
          ⟨_, (List.append_nil _).symm, hassigns, pauses_nil⟩
        exact .parameter (by simp) (by simp [IsBlanks, isSpace]) hleads (adds_withParameter _ p) .done
      have hno : ∀ n v, ¬ Assigns (c.scheme.toList ++ ' ' :: displayParameter p) n v := by
        intro n v
        have hnone := not_assigns_displayParameter (b := [' ']) (t := []) (n := n) (v := v) h.scheme
          (by simp) (by simp [IsBlanks, isSpace]) (h.names p hp)
        simpa using hnone
      have hfirst : ((⟨c.scheme, .empty⟩ : Challenge).withParameter p.1 p.2).parameters.toList =
          [p] := Parameters.empty.toList_add p.1 p.2
      have htail : Reads (some ((⟨c.scheme, .empty⟩ : Challenge).withParameter p.1 p.2))
          (ps.map displayParameter ++ ws) cs :=
        reads_parameters h rfl (by rw [hfirst, hlist]; rfl) hrest
      exact .piece (.opens hno (hoffers hitems)) htail

/-! ## Many challenges -/

theorem reads_written {cs : List Challenge} (h : ∀ c ∈ cs, c.Writable) (current : Option Challenge) :
    Reads current (cs.flatMap written) (current.toList ++ cs) := by
  induction cs generalizing current with
  | nil =>
      have hdone : Reads current [] current.toList := .done
      simpa using hdone
  | cons c cs ih =>
      have hrest := ih (fun d hd => h d (.tail _ hd)) (some c)
      exact (h c (.head _)).reads hrest

theorem strip_eq (hbegins : BeginsVisibly w) (hends : EndsVisibly w) : strip w = w := by
  rcases strip_spec hbegins with ⟨b, hsplit, hb, _⟩
  have hb' : b = [] := by
    rw [hsplit] at hends
    rcases hends.nil_or with rfl | ⟨u, x, rfl, hx⟩
    · rfl
    · have hspace := hb x (by simp)
      rw [hx] at hspace
      cases hspace
  rw [hb', List.append_nil] at hsplit
  exact hsplit.symm

theorem pieces_solid (h : Solid w) : pieces w = [w] := by
  have hne : w.isEmpty = false := by simpa using h.ends.ne_nil
  simp [pieces, cut_of_whole h.level.whole, strip_eq h.begins h.ends, hne]

theorem pieces_append (h : Solid w) : pieces (w ++ ',' :: t) = w :: pieces t := by
  have hne : w.isEmpty = false := by simpa using h.ends.ne_nil
  simp [pieces, cut_append h.level.whole h.level.closed, strip_eq h.begins h.ends, hne]

/-- Items that are joined are the pieces of the joined text. -/
theorem pieces_intercalate {ws : List (List Char)} (h : ∀ w ∈ ws, Solid w) :
    pieces (separator.intercalate ws) = ws := by
  induction ws with
  | nil => rfl
  | cons w ws ih =>
      have hrest := ih fun x hx => h x (.tail _ hx)
      cases ws with
      | nil => simpa using pieces_solid (h w (.head _))
      | cons w' ws =>
          calc
            pieces (separator.intercalate (w :: w' :: ws))
              = pieces (w ++ ',' :: ' ' :: separator.intercalate (w' :: ws)) := by
                rw [List.intercalate_cons_cons]
                simp [separator]
            _ = w :: pieces (separator.intercalate (w' :: ws)) := by
                rw [pieces_append (h w (.head _)), pieces_separator (by decide)]
            _ = w :: w' :: ws := by rw [hrest]

theorem toList_listed (cs : List Challenge) :
    (listed cs).toList = separator.intercalate (cs.flatMap written) := by
  have hdisplay : cs.map (String.toList ∘ display) = cs.map (separator.intercalate ∘ written) := by
    refine List.map_congr_left fun c _ => ?_
    simp [display, displayChars_eq]
  have hne : ∀ ws ∈ cs.map written, ws ≠ [] := by
    simp [written_ne_nil]
  rw [listed, String.toList_intercalate, List.map_map, hdisplay, ← List.map_map,
    List.flatMap_def]
  exact intercalate_flatten separator hne

/-- Empty values do not count among values that are joined. -/
theorem intercalate_filter {gss : List (List (List Char))}
    (h : ∀ ws ∈ gss, ∀ w ∈ ws, Trimmed w) :
    separator.intercalate ((gss.map separator.intercalate).filter (!·.isEmpty)) =
      separator.intercalate gss.flatten := by
  -- a group has an empty text only if it has no items
  have hempty : gss.filter ((!·.isEmpty) ∘ separator.intercalate) = gss.filter (!·.isEmpty) := by
    refine List.filter_congr fun ws hws => ?_
    cases ws with
    | nil => rfl
    | cons w ws =>
        have hne := (trimmed_intercalate (by simp) (h _ hws) separator).ne_nil
        simpa using hne
  have hne : ∀ ws ∈ gss.filter (!·.isEmpty), ws ≠ [] := by
    intro ws hws
    simpa using (List.mem_filter.1 hws).2
  rw [List.filter_map, hempty, intercalate_flatten separator hne, List.flatten_filter_not_isEmpty]

/-- The reader joins the header values to one list of all pieces. -/
theorem joined_listed {groups : List (List Challenge)} (h : ∀ g ∈ groups, ∀ c ∈ g, c.Writable) :
    joined (groups.map listed) = separator.intercalate (groups.flatten.flatMap written) := by
  have hpieces : ∀ g ∈ groups, ∀ w ∈ g.flatMap written, Trimmed w := by
    intro g hg w hw
    rcases List.mem_flatMap.1 hw with ⟨c, hc, hwc⟩
    exact ((h g hg c hc).pieces w hwc).2
  have htrim : (groups.map listed).map (fun v => trimChars v.toList) =
      (groups.map fun g => g.flatMap written).map separator.intercalate := by
    rw [List.map_map, List.map_map]
    refine List.map_congr_left fun g hg => ?_
    rw [Function.comp_apply, toList_listed, Function.comp_apply]
    cases g with
    | nil => rfl
    | cons c g =>
        exact (trimmed_intercalate (by simp [written_ne_nil]) (hpieces _ hg) separator).trimChars_eq
  have hall : ∀ ws ∈ groups.map (fun g => g.flatMap written), ∀ w ∈ ws, Trimmed w := by
    intro ws hws
    rcases List.mem_map.1 hws with ⟨g, hg, rfl⟩
    exact hpieces g hg
  calc
    joined (groups.map listed)
      = separator.intercalate
          (((groups.map fun g => g.flatMap written).map separator.intercalate).filter
            (!·.isEmpty)) := by rw [joined, htrim]; rfl
    _ = separator.intercalate (groups.map fun g => g.flatMap written).flatten :=
        intercalate_filter hall
    _ = separator.intercalate (groups.flatten.flatMap written) := by
        rw [← List.flatMap_def, List.flatten_eq_flatMap, List.flatMap_assoc]
        rfl

theorem parseAll_listed {groups : List (List Challenge)} (h : ∀ g ∈ groups, ∀ c ∈ g, c.Writable) :
    parseAll (groups.map listed) = groups.flatten := by
  have hall : ∀ c ∈ groups.flatten, c.Writable := by
    intro c hc
    rcases List.mem_flatten.1 hc with ⟨g, hg, hcg⟩
    exact h g hg c hcg
  have hsolid : ∀ w ∈ groups.flatten.flatMap written, Solid w := by
    intro w hw
    rcases List.mem_flatMap.1 hw with ⟨c, hc, hwc⟩
    exact ((hall c hc).pieces w hwc).1
  have hreads : Reads none (pieces (joined (groups.map listed))) groups.flatten := by
    rw [joined_listed h, pieces_intercalate hsolid]
    exact reads_written hall none
  exact (reads_iff _ none _).1 hreads

/-! ## What is read can be written -/

theorem writable_bare {scheme : List Char} (h : IsToken scheme) :
    Writable ⟨String.ofList scheme, .empty⟩ where
  scheme := by simpa using h
  names := by simp [Parameters.empty]
  values := by simp [Parameters.empty]

theorem Adds.writable {c c' : Challenge} {n v : List Char} (h : Adds c n v c') (hc : c.Writable)
    (hname : IsToken n) (hvalue : Plain v) : c'.Writable := by
  have hmem : ∀ p ∈ c'.parameters.toList,
      p ∈ c.parameters.toList ∨ p = (String.ofList n, String.ofList v) := by
    intro p hp
    rw [h.2] at hp
    split at hp
    · exact .inl hp
    · simpa using hp
  refine ⟨by rw [h.1]; exact hc.scheme, ?_, ?_⟩
  · intro p hp
    rcases hmem p hp with hold | rfl
    · exact hc.names p hold
    · simpa using hname
  · intro p hp
    rcases hmem p hp with hold | rfl
    · exact hc.values p hold
    · simpa using hvalue

theorem Items.writable {c c' : Challenge} {t : List Char} (h : Items c t c') (hc : c.Writable)
    (ht : Plain t) : c'.Writable := by
  induction h with
  | done => exact hc
  | parameter _ _ hleads hadds _ ih =>
      rcases hleads with ⟨w, rfl, hassigns, _⟩
      have hparts := plain_append.1 (plain_append.1 ht).2
      exact ih (hadds.writable hc hassigns.isToken (hparts.1.mono hassigns.mem)) hparts.2
  | passed _ _ hpassed _ ih =>
      rcases hpassed.split with ⟨w, rfl, _⟩
      exact ih hc (plain_append.1 (plain_append.1 ht).2).2

theorem Offers.writable {c : Challenge} {w : List Char} (h : Offers w c) (hw : Plain w) :
    c.Writable := by
  cases h with
  | mk hscheme hitems => exact hitems.writable (writable_bare hscheme) (plain_append.1 hw).2

theorem Turn.writable {current current' : Option Challenge} {ended : List Challenge}
    {w : List Char} (h : Turn w current ended current') (hcurrent : ∀ c ∈ current, c.Writable)
    (hw : Plain w) : (∀ c ∈ ended, c.Writable) ∧ ∀ c ∈ current', c.Writable := by
  have hopen : ∀ c ∈ current.toList, c.Writable := fun c hc =>
    hcurrent c (Option.mem_toList.1 hc)
  cases h with
  | @adds c c' n v hassigns hadds =>
      have hc' := hadds.writable (hcurrent c rfl) hassigns.isToken (hw.mono hassigns.mem)
      exact ⟨by simp, by simpa using hc'⟩
  | dropped _ => exact ⟨by simp, by simp⟩
  | opens _ hoffers => exact ⟨hopen, by simpa using hoffers.writable hw⟩
  | ends _ _ _ => exact ⟨hopen, by simp⟩
  | skipped _ _ _ => exact ⟨by simp, hcurrent⟩

theorem Reads.writable {current : Option Challenge} {ws : List (List Char)} {cs : List Challenge}
    (h : Reads current ws cs) (hcurrent : ∀ c ∈ current, c.Writable) (hws : ∀ w ∈ ws, Plain w) :
    ∀ c ∈ cs, c.Writable := by
  induction h with
  | done => exact fun c hc => hcurrent c (Option.mem_toList.1 hc)
  | piece hturn _ ih =>
      have hpiece := hturn.writable hcurrent (hws _ (.head _))
      intro c hc
      rcases List.mem_append.1 hc with hc | hc
      · exact hpiece.1 c hc
      · exact ih hpiece.2 (fun w hw => hws w (.tail _ hw)) c hc

/-- The pieces of a text hold its characters and no others. -/
theorem mem_of_mem_pieces {s : List Char} (hw : w ∈ pieces s) : ∀ x ∈ w, x ∈ s := by
  -- cutting loses commas only, in whatever mode it starts
  have hcut : ∀ (s : List Char) (m : Mode), ∀ w ∈ cut m s, ∀ x ∈ w, x ∈ s := by
    intro s
    induction s with
    | nil => simp [cut]
    | cons c s ih =>
        intro m w hw x hx
        rw [cut] at hw
        split at hw
        · rcases List.mem_cons.1 hw with rfl | hw
          · cases hx
          · exact .tail _ (ih _ w hw x hx)
        · cases hrest : cut (m.next c) s with
          | nil => simp [hrest] at hw
          | cons u us =>
              rw [hrest, List.modifyHead_cons] at hw
              have hall := ih (m.next c)
              rw [hrest] at hall
              rcases List.mem_cons.1 hw with rfl | hw
              · rcases List.mem_cons.1 hx with rfl | hx
                · exact .head _
                · exact .tail _ (hall u (.head _) x hx)
              · exact .tail _ (hall w (.tail _ hw) x hx)
  intro x hx
  rcases List.mem_map.1 (List.mem_filter.1 hw).1 with ⟨u, hu, rfl⟩
  have hstripped : x ∈ u :=
    (List.dropWhile_suffix _).subset ((List.rdropWhile_prefix _ _).subset hx)
  exact hcut s .outside u hu x hstripped

/-- The joined list holds the characters of the values and of the separators. -/
theorem plain_joined {values : List String} (h : ∀ v ∈ values, Plain v.toList) :
    Plain (joined values) := by
  refine plain_intercalate (by simp [Plain, isControl]) ?_
  intro w hw
  rcases List.mem_map.1 (List.mem_filter.1 hw).1 with ⟨v, hv, rfl⟩
  refine (h v hv).mono fun x hx => ?_
  have hback : x ∈ v.toList.dropWhile isBlank := by
    have hreverse := (List.dropWhile_suffix _).subset (List.mem_reverse.1 hx)
    exact List.mem_reverse.1 hreverse
  exact (List.dropWhile_suffix _).subset hback

theorem writable_of_mem_parseAll {values : List String} (h : ∀ v ∈ values, Plain v.toList) :
    ∀ c ∈ parseAll values, c.Writable := by
  have hreads : Reads none (pieces (joined values)) (parseAll values) := (reads_iff _ none _).2 rfl
  refine hreads.writable (by simp) ?_
  intro w hw
  exact (plain_joined h).mono (mem_of_mem_pieces hw)

/-! ## There and back -/

/-- A text of visible ASCII characters, blanks and tabs. -/
def Visible (s : String) : Prop := ∀ x ∈ s.toList, x = '\t' ∨ (32 ≤ x.toNat ∧ x.toNat < 127)

theorem Visible.plain {s : String} (h : Visible s) : Plain s.toList := by
  intro x hx
  rcases h x hx with htab | hrange
  · exact .inl htab
  · refine .inr ?_
    simp only [isControl, Bool.or_eq_false_iff, Bool.and_eq_false_iff, decide_eq_false_iff_not]
    omega

/-- The header values that count as texts are visible. -/
theorem visible_of_mem_texts {h : Headers} {name v : String} (hv : v ∈ h.texts name) :
    Visible v := by
  rcases List.mem_map.1 hv with ⟨octets, hoctets, rfl⟩
  have hall := List.all_eq_true.1 (List.mem_filter.1 hoctets).2
  intro x hx
  rw [String.toList_ofList] at hx
  rcases List.mem_map.1 hx with ⟨b, hb, rfl⟩
  rcases Bool.or_eq_true_iff.1 (hall b hb) with htab | hrange
  · left
    rw [eq_of_beq htab]
    rfl
  · right
    simp only [Bool.and_eq_true, decide_eq_true_eq, UInt8.le_iff_toNat_le, UInt8.lt_iff_toNat_lt]
      at hrange
    have hvalid : b.toNat.isValidChar := .inl (Nat.lt_trans hrange.2 (by decide))
    have hsame : (Char.ofNat b.toNat).toNat = b.toNat := by
      rw [Char.ofNat, dif_pos hvalid]
      rfl
    rw [hsame]
    exact hrange

/-- Challenges that are written in any number of header values read back as they were, whatever their
values hold.  So what was read from header values can be written down and read again. -/
theorem read_back :
    (∀ groups : List (List Challenge), (∀ g ∈ groups, ∀ c ∈ g, c.Writable) →
      parseAll (groups.map listed) = groups.flatten) ∧
    (∀ (values : List String) (groups : List (List Challenge)), (∀ v ∈ values, Visible v) →
      groups.flatten = parseAll values → parseAll (groups.map listed) = parseAll values) ∧
    ∀ (r : Response) (groups : List (List Challenge)), groups.flatten = r.challenges →
      parseAll (groups.map listed) = r.challenges := by
  have hagain : ∀ (values : List String) (groups : List (List Challenge)),
      (∀ v ∈ values, Visible v) → groups.flatten = parseAll values →
      parseAll (groups.map listed) = parseAll values := by
    intro values groups hvalues hgroups
    have hwritable := writable_of_mem_parseAll fun v hv => (hvalues v hv).plain
    rw [← hgroups] at hwritable ⊢
    exact parseAll_listed fun g hg c hc => hwritable c (List.mem_flatten.2 ⟨g, hg, hc⟩)
  refine ⟨fun groups h => parseAll_listed h, hagain, ?_⟩
  intro r groups hgroups
  exact hagain _ groups (fun v hv => visible_of_mem_texts hv) hgroups

instance (c : Challenge) : Decidable c.Writable :=
  decidable_of_iff ((c.scheme.toList ≠ [] ∧ c.scheme.toList.all isTokenChar) ∧
      (c.parameters.toList.all fun p => !p.1.toList.isEmpty && p.1.toList.all isTokenChar) ∧
      c.parameters.toList.all fun p => p.2.toList.all fun x => x = '\t' ∨ isControl x = false)
    ⟨fun ⟨hscheme, hnames, hvalues⟩ =>
      ⟨by simpa [IsToken] using hscheme, by simpa [IsToken] using hnames, by simpa [Plain] using hvalues⟩,
    fun h => ⟨by simpa [IsToken] using h.scheme, by simpa [IsToken] using h.names,
      by simpa [Plain] using h.values⟩⟩

instance (s : String) : Decidable (Visible s) :=
  decidable_of_iff (s.toList.all fun x => x = '\t' ∨ (32 ≤ x.toNat ∧ x.toNat < 127)) (by simp [Visible])

/-- Two groups of challenges whose values hold all that separates challenges. -/
def crowded : List (List Challenge) :=
  [[⟨"UMA", Parameters.ofList [("ticket", "a=b, \"c\\\" "), ("as_uri", "")]⟩, ⟨"Basic", .empty⟩],
    [⟨"dpop", Parameters.ofList [("algs", "ES256\tES384")]⟩]]

/-- Header values with a challenge that is read only in part. -/
def untidy : List String := ["UMA ticket=t==, x y\"z", " ,Bearer\ta=\"\\q\", b"]

example : crowded.map listed =
    ["UMA ticket=\"a=b, \\\"c\\\\\\\" \", as_uri=\"\", Basic", "dpop algs=\"ES256\tES384\""] := by
  decide +kernel

/-- Both ways round, with crowded values and with untidy ones. -/
theorem read_back_crowded :
    (∀ g ∈ crowded, ∀ c ∈ g, c.Writable) ∧ parseAll (crowded.map listed) = crowded.flatten ∧
      (∀ v ∈ untidy, Visible v) ∧ parseAll [listed (parseAll untidy)] = parseAll untidy := by
  have hcrowded : ∀ g ∈ crowded, ∀ c ∈ g, c.Writable := by
    have hall : (crowded.all fun g => g.all fun c => c.Writable) = true := by decide +kernel
    simpa using hall
  have huntidy : ∀ v ∈ untidy, Visible v := by
    have hall : (untidy.all fun v => Visible v) = true := by decide +kernel
    simpa using hall
  refine ⟨hcrowded, read_back.1 crowded hcrowded, huntidy, ?_⟩
  exact read_back.2.1 untidy [parseAll untidy] huntidy (by simp)

end Challenge
end Countersign
