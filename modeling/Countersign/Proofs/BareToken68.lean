import Countersign.Proofs.ChallengeSpacing

/-!
# Bare token68 — credentials between a scheme and its parameters

A token68 behind the scheme is accepted and says nothing.  Its padding is made of the sign that stands
between a name and a value, so a padded token68 looks like the beginning of a parameter, and with blanks
behind it the next parameter looks like its value.  Whatever it looks like, it is passed over alone.

* `Header.param_token68` — a token68 begins no parameter, if nothing behind it can be its value;
* `Challenge.bearing` — a challenge written with a token68 behind its scheme;
* `Challenge.parse_bearing` — it is read as if the token68 were not there.
-/

namespace Countersign

namespace Header

open Text

variable {name r s t w : List Char}

/-! ## A token68 is no parameter -/

theorem param_eq_none_of_sign (htoken : token s = some (name, r))
    (hsign : Halts (· == '=') (skipBlanks r)) : param [','] s = none := by
  unfold param
  rw [htoken]
  simp only
  split
  · rename_i u hu
    rw [hu] at hsign
    exact absurd (hsign '=' rfl) (by decide)
  · rfl

theorem param_eq_none_of_value (htoken : token s = some (name, '=' :: r))
    (hvalue : ∀ v q, paramValue (skipBlanks r) = some (v, q) → atDelimiter [','] q = false) :
    param [','] s = none := by
  have hskip : skipBlanks ('=' :: r) = '=' :: r := skipBlanks_append isBlanks_nil (.cons rfl)
  unfold param
  rw [htoken]
  simp only [hskip]
  split
  · rfl
  · rename_i v q hq
    rw [hvalue v q hq]
    rfl

/-- A text of token68 characters is a run of token characters, up to its first slash. -/
theorem exists_token_run (hw : ∀ c ∈ w, isToken68Char c = true) :
    (∀ c ∈ w, isTokenChar c = true) ∨
      ∃ u c v, w = u ++ c :: v ∧ (∀ d ∈ u, isTokenChar d = true) ∧ isTokenChar c = false := by
  induction w with
  | nil => exact .inl nofun
  | cons d w ih =>
      by_cases hd : isTokenChar d = true
      · rcases ih fun c hc => hw c (.tail _ hc) with hall | ⟨u, c, v, rfl, hu, hc⟩
        · left
          simpa [hd] using hall
        · right
          exact ⟨d :: u, c, v, rfl, by simpa [hd] using hu, hc⟩
      · right
        exact ⟨[], d, w, rfl, nofun, by simpa using hd⟩

/-- A token68 begins no parameter: its first sign is followed by a second one, or by what follows the
token68, and that is no value which ends at a delimiter. -/
theorem param_token68 (ht : IsToken68 t) (hr : Halts isTokenChar r)
    (hsign : Halts (· == '=') (skipBlanks r))
    (hvalue : ∀ v q, paramValue (skipBlanks r) = some (v, q) → atDelimiter [','] q = false) :
    param [','] (t ++ r) = none := by
  rcases ht with @⟨w, p, hne, hw, hp⟩
  rcases exists_token_run hw with hall | ⟨u, c, v, rfl, hu, hc⟩
  · have htoken : token (w ++ p ++ r) = some (w, p ++ r) :=
      token_eq_some.2 ⟨List.append_assoc .., ⟨hne, hall⟩, hp.halts hr⟩
    cases p with
    | nil => exact param_eq_none_of_sign htoken hsign
    | cons x p =>
        obtain rfl := hp x (by simp)
        refine param_eq_none_of_value htoken ?_
        cases p with
        | nil => exact hvalue
        | cons y p =>
            -- no value begins with a sign
            obtain rfl := hp y (by simp)
            intro v q hq
            have hskip : skipBlanks ('=' :: (p ++ r)) = '=' :: (p ++ r) :=
              skipBlanks_append isBlanks_nil (.cons rfl)
            rw [List.append_eq, List.cons_append, hskip] at hq
            exact absurd hq (by simp [paramValue, paddedToken, token, isTokenChar, isAlnum])
  · -- the run of token characters ends inside the token68, at a character that is no sign
    have hplain := isToken68Char_plain (hw c (by simp))
    have hspace : isSpace c = false := by
      have hsep := hplain.2
      simp only [isSeparator, Bool.or_eq_false_iff] at hsep
      exact hsep.2
    have hskip : skipBlanks (c :: (v ++ p ++ r)) = c :: (v ++ p ++ r) :=
      skipBlanks_append isBlanks_nil (.cons hspace)
    have hequals : c ≠ '=' := by
      rintro rfl
      exact absurd (hw '=' (by simp)) (by decide)
    by_cases hu' : u = []
    · subst hu'
      have hnone : token (c :: (v ++ p ++ r)) = none := by simp [token, hc]
      have hparam : param [','] (c :: (v ++ p ++ r)) = none := by
        unfold param
        rw [hnone]
      simpa using hparam
    · have htoken : token (u ++ c :: v ++ p ++ r) = some (u, c :: (v ++ p ++ r)) :=
        token_eq_some.2 ⟨by simp, ⟨hu', hu⟩, .cons hc⟩
      refine param_eq_none_of_sign htoken ?_
      rw [hskip]
      exact .cons (by simpa using hequals)

/-- Before the sign of a parameter there is no value which ends at a delimiter. -/
theorem paramValue_of_quoted {name u : List Char} (hname : IsToken name) {v q : List Char}
    (h : paramValue (name ++ '=' :: '"' :: u) = some (v, q)) : atDelimiter [','] q = false := by
  have htoken : token (name ++ '=' :: '"' :: u) = some (name, '=' :: '"' :: u) :=
    token_eq_some.2 ⟨rfl, hname, .cons (by decide)⟩
  have hpadded : paddedToken (name ++ '=' :: '"' :: u) = some (name ++ ['='], '"' :: u) := by
    unfold paddedToken
    rw [htoken]
    rfl
  have hvalue : paramValue (name ++ '=' :: '"' :: u) = some (name ++ ['='], '"' :: u) := by
    rcases List.exists_cons_of_ne_nil hname.1 with ⟨c, w, rfl⟩
    have hc : c ≠ '"' := ne_of_isTokenChar (hname.2 c (by simp)) (by decide)
    unfold paramValue
    split
    · rename_i hquote
      have hcq : c = '"' := by simpa using congrArg List.head? hquote
      exact absurd hcq hc
    · exact hpadded
  rw [hvalue] at h
  cases h
  rfl

end Header

namespace Challenge

open Text Header

/-! ## A challenge with a token68 -/

/-- A scheme with blanks and a token68, and behind a gap the parameters, if there are any. -/
def bearing (c : Challenge) (b t : List Char) (gap : Gap) : String :=
  String.ofList (c.scheme.toList ++ b ++ t ++
    match c.parameters.toList with
    | [] => []
    | ps => gap.text ++ separator.intercalate (ps.map displayParameter))

variable {c : Challenge} {b g t x : List Char} {p : String × String}

theorem not_leads_assigns (hx : Solid x) (h : param [','] x = none) :
    ∀ n v u, ¬ Leads (Assigns · n v) x u := by
  have hseal : Sealed x [] [] := ⟨hx.level.whole, isBlanks_nil, .inl rfl⟩
  apply hseal.param_eq_none.1
  simpa using h

/-- A token68 at the end of a piece is passed over. -/
theorem passed_token68 (ht : IsToken68 t) : PassedOver t [] := by
  have hparam : param [','] (t ++ []) = none :=
    param_token68 ht .nil .nil fun v q hq => by simp [skipBlanks, paramValue, paddedToken, token] at hq
  rw [List.append_nil] at hparam
  exact .token68 (not_leads_assigns ht.solid hparam) ⟨t, (List.append_nil t).symm, ht, pauses_nil⟩

/-- A token68 is passed over where a parameter follows. -/
theorem passed_token68_parameter (ht : IsToken68 t) (hne : g ≠ []) (hg : IsBlanks g)
    (hp : Legible p) : PassedOver (t ++ (g ++ displayParameter p)) (g ++ displayParameter p) := by
  have hvisible := halts_displayParameter hp.1 (fun x hx => isSpace_of_isTokenChar hx) []
  have hsign : Halts (· == '=') (displayParameter p ++ []) := by
    refine halts_displayParameter hp.1 ?_ []
    intro x hx
    simpa using ne_of_isTokenChar hx (by decide)
  rw [List.append_nil] at hvisible hsign
  have hskip : skipBlanks (g ++ displayParameter p) = displayParameter p :=
    skipBlanks_append hg hvisible
  have hpause : Pauses (g ++ displayParameter p) := pauses_blanks hne hg
  have hparam : param [','] (t ++ (g ++ displayParameter p)) = none := by
    refine param_token68 ht (fun x hx => isTokenChar_of_isSpace (hpause x hx)) ?_ ?_
    · rwa [hskip]
    · intro v q hq
      rw [hskip] at hq
      exact paramValue_of_quoted hp.1 hq
  have hsolid : Solid (t ++ (g ++ displayParameter p)) :=
    ⟨ht.level.append (hg.level.append hp.assigns.level), ht.beginsVisibly.append,
      hp.assigns.endsVisibly.append.append⟩
  exact .token68 (not_leads_assigns hsolid hparam) ⟨t, rfl, ht, hpause⟩

theorem trimmed_token68 (ht : IsToken68 t) : Trimmed t := by
  have hvisible : ∀ x ∈ t, isBlank x = false := by
    rcases ht with ⟨_, hw, hp⟩
    intro x hx
    rcases List.mem_append.1 hx with hx | hx
    · rcases Bool.or_eq_true_iff.1 (hw x hx) with halnum | hsign
      · exact isBlank_of_isTokenChar (Bool.or_eq_true_iff.2 (.inl halnum))
      · have hall : (['-', '.', '_', '~', '+', '/'].all fun d => !isBlank d) = true := by decide
        simpa using List.all_eq_true.1 hall x (by simpa using hsign)
    · rw [hp x hx]
      decide
  have hne : t ≠ [] := ht.solid.ends.ne_nil
  exact ⟨hne, fun x hx => hvisible x (List.mem_of_mem_head? hx),
    fun x hx => hvisible x (List.mem_reverse.1 (List.mem_of_mem_head? hx))⟩

/-- A piece that begins with the scheme and a token68 opens the challenge that its items spell, and the
pieces behind it complete the challenge. -/
theorem reads_bearing {y : List Char} {d : Challenge} {ps : List (String × String)}
    (h : c.Writable) (hne : b ≠ []) (hb : IsBlanks b) (ht : IsToken68 t)
    (hpassed : PassedOver (t ++ y) y) (hitems : Items ⟨c.scheme, .empty⟩ y d)
    (hscheme : c.scheme = d.scheme) (hlist : c.parameters.toList = d.parameters.toList ++ ps) :
    Reads none ((c.scheme.toList ++ (b ++ (t ++ y))) :: ps.map displayParameter) [c] := by
  have hoffers : Offers (c.scheme.toList ++ (b ++ (t ++ y))) d := by
    refine .mk h.scheme (.passed hne hb hpassed ?_)
    rwa [String.ofList_toList]
  have hfront : ∀ f : Char → Bool, (∀ x, isToken68Char x = true → f x = false) →
      Halts f (t ++ y) := by
    intro f hf
    rcases ht with @⟨w, p, hwne, hw, _⟩
    rcases List.exists_cons_of_ne_nil hwne with ⟨x, w, rfl⟩
    exact .cons (hf x (hw x (by simp)))
  have hno : ∀ n v, ¬ Assigns (c.scheme.toList ++ (b ++ (t ++ y))) n v := by
    intro n v
    apply not_assigns_opening h.scheme hne hb
    · apply hfront
      intro x hx
      have hsep := (isToken68Char_plain hx).2
      simp only [isSeparator, Bool.or_eq_false_iff] at hsep
      exact hsep.2
    · apply hfront
      intro x hx
      simp only [beq_eq_false_iff_ne]
      rintro rfl
      exact absurd hx (by decide)
  have hdone : Reads (some c) [] [c] := .done
  have hrest := reads_parameters h hscheme hlist hdone
  rw [List.append_nil] at hrest
  exact .piece (.opens hno hoffers) hrest

/-- Where no parameter shares its piece, the token68 is all there is behind the scheme. -/
theorem reads_token68 (h : c.Writable) (hne : b ≠ []) (hb : IsBlanks b) (ht : IsToken68 t) :
    Reads none ((c.scheme.toList ++ (b ++ t)) :: c.parameters.toList.map displayParameter) [c] := by
  have hpassed : PassedOver (t ++ []) [] := by simpa using passed_token68 ht
  have hreads := reads_bearing (d := ⟨c.scheme, .empty⟩) h hne hb ht hpassed .done rfl rfl
  simpa using hreads

/-- The parameter behind the blanks shares the piece of the token68. -/
theorem reads_token68_parameter {ps : List (String × String)} (h : c.Writable) (hne : b ≠ [])
    (hb : IsBlanks b) (ht : IsToken68 t) (hgne : g ≠ []) (hg : IsBlanks g)
    (hlist : c.parameters.toList = p :: ps) :
    Reads none ((c.scheme.toList ++ (b ++ (t ++ (g ++ displayParameter p)))) ::
      ps.map displayParameter) [c] := by
  have hp : Legible p := h.legible p (by simp [hlist])
  have hlist' : c.parameters.toList = (⟨c.scheme, .empty⟩ : Challenge).parameters.toList ++ p :: ps :=
    hlist
  have hadded : ((⟨c.scheme, .empty⟩ : Challenge).withParameter p.1 p.2).parameters.toList = [p] :=
    toList_withParameter hlist'
  have hitems : Items ⟨c.scheme, .empty⟩ (g ++ displayParameter p)
      ((⟨c.scheme, .empty⟩ : Challenge).withParameter p.1 p.2) :=
    (Strung.one p).items (by simpa using hp) hgne hg rfl hadded
  have hpassed := passed_token68_parameter ht hgne hg hp
  refine reads_bearing h hne hb ht hpassed hitems rfl ?_
  rw [hadded, hlist]
  rfl

theorem append_intercalate (w x : List Char) (ws : List (List Char)) :
    w ++ separator.intercalate (x :: ws) = separator.intercalate ((w ++ x) :: ws) := by
  cases ws with
  | nil => simp
  | cons y ws => simp [List.intercalate_cons_cons]

/-- The pieces of a challenge with a token68 spell the challenge. -/
theorem reads_pieces_bearing {gap : Gap} (h : c.Writable) (hne : b ≠ []) (hb : IsBlanks b)
    (ht : IsToken68 t) (hgap : gap.Legal) : Reads none (pieces (bearing c b t gap).toList) [c] := by
  -- the scheme, its blanks and the token68 lead whatever stands behind them
  have hlevel : Level (c.scheme.toList ++ (b ++ t)) :=
    h.scheme.level.append (hb.level.append ht.level)
  have hbegins : BeginsVisibly (c.scheme.toList ++ (b ++ t)) := h.scheme.beginsVisibly.append
  have hlead : Solid (c.scheme.toList ++ (b ++ t)) :=
    ⟨hlevel, hbegins, ht.endsVisibly.append.append⟩
  have hsolid : ∀ w ∈ c.parameters.toList.map displayParameter, Solid w := by
    intro w hw
    rcases List.mem_map.1 hw with ⟨p, hp, rfl⟩
    exact (h.legible p hp).assigns.solid
  have hreads := reads_token68 h hne hb ht
  unfold bearing
  rw [String.toList_ofList]
  cases hlist : c.parameters.toList with
  | nil =>
      rw [hlist] at hreads
      simpa [pieces_solid hlead] using hreads
  | cons p ps =>
      rw [hlist] at hreads hsolid
      cases gap with
      | comma before after =>
          have hpieces := pieces_comma hlead hgap.1 hgap.2
            (t := separator.intercalate ((p :: ps).map displayParameter))
          rw [pieces_intercalate hsolid] at hpieces
          rw [← hpieces] at hreads
          simpa [Gap.text] using hreads
      | blanks g =>
          have hp := (h.legible p (by simp [hlist])).assigns
          have hfirst : Solid (c.scheme.toList ++ (b ++ t) ++ (g ++ displayParameter p)) :=
            ⟨hlevel.append (hgap.2.level.append hp.level), hbegins.append,
              hp.endsVisibly.append.append⟩
          have hall : ∀ w ∈ (c.scheme.toList ++ (b ++ t) ++ (g ++ displayParameter p)) ::
              ps.map displayParameter, Solid w := by
            intro w hw
            rcases List.mem_cons.1 hw with rfl | hw
            · exact hfirst
            · exact hsolid w (.tail _ hw)
          have hpieces := pieces_intercalate hall
          have hshared := reads_token68_parameter h hne hb ht hgap.1 hgap.2 hlist
          rw [← append_intercalate, ← append_intercalate] at hpieces
          simp only [List.append_assoc] at hpieces hshared
          rw [← hpieces] at hshared
          simpa [Gap.text] using hshared

/-- A token68 behind the scheme is passed over, whatever its padding: the challenge is read as if it were
not there. -/
theorem parse_bearing {gap : Gap} (h : c.Writable) (hne : b ≠ []) (hb : IsBlanks b)
    (ht : IsToken68 t) (hgap : gap.Legal) : parse (bearing c b t gap) = [c] := by
  have htrimmed : Trimmed (bearing c b t gap).toList := by
    unfold bearing
    rw [String.toList_ofList]
    cases hlist : c.parameters.toList with
    | nil => simpa using (trimmed_token h.scheme).between (trimmed_token68 ht) b
    | cons p ps =>
        have hlast : Trimmed (separator.intercalate ((p :: ps).map displayParameter)) := by
          apply trimmed_intercalate (by simp)
          intro w hw
          rcases List.mem_map.1 hw with ⟨q, hq, rfl⟩
          exact trimmed_displayParameter (h.names q (hlist ▸ hq))
        simpa using (trimmed_token h.scheme).between hlast (b ++ (t ++ gap.text))
  apply (reads_iff _ none _).1
  rw [joined_singleton htrimmed]
  exact reads_pieces_bearing h hne hb ht hgap

example : bearing ⟨"Basic", Parameters.ofList [("realm", "a, b"), ("key", "=")]⟩ [' ']
    ['c', 'g', '='] (.blanks [' ']) = "Basic cg= realm=\"a, b\", key=\"=\"" := by
  decide +kernel

/-- A sign and a blank stand before the first parameter, as before a value. -/
theorem parse_bearing_padded :
    ((⟨"Basic", Parameters.ofList [("realm", "a, b"), ("key", "=")]⟩ : Challenge).Writable ∧
      IsToken68 ['c', 'g', '=']) ∧
    parse (bearing ⟨"Basic", Parameters.ofList [("realm", "a, b"), ("key", "=")]⟩ [' ']
      ['c', 'g', '='] (.blanks [' '])) =
      [⟨"Basic", Parameters.ofList [("realm", "a, b"), ("key", "=")]⟩] := by
  have hwritable : (⟨"Basic", Parameters.ofList [("realm", "a, b"), ("key", "=")]⟩ :
      Challenge).Writable := by decide +kernel
  have hchars : ∀ x ∈ ['c', 'g'], isToken68Char x = true := by simp [isToken68Char, isAlnum]
  have htoken68 : IsToken68 (['c', 'g'] ++ ['=']) := .mk (by simp) hchars (by simp [IsPadding])
  have hblank : IsBlanks [' '] := by simp [IsBlanks, isSpace]
  have hgap : (Gap.blanks [' ']).Legal := ⟨by simp, hblank⟩
  exact ⟨⟨hwritable, htoken68⟩, parse_bearing hwritable (by simp) hblank htoken68 hgap⟩

end Challenge
end Countersign
