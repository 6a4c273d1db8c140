import Countersign.Header.Link
import Countersign.Proofs.ChallengeWriting

/-!
# Link writing — links read back, whatever stands between them

A link is written with its target in angle brackets and its parameters in quotes, so that both may hold
what separates links.  In a header value links stand between elements that are none, and a reader that
goes on behind such an element has to find the comma that ends it.  This module shows that it does:

* `Header.Closed` — texts that close what they open and hide their commas in it;
* `Link.Writable` — links whose written form can be read;
* `Link.parametersFrom_append_none`, `Link.linkElement_append_none` — what spoils an element spoils it
  whatever follows;
* `Link.links_read_back` — the links of a list come back, in order, and nothing else does.
-/

namespace Countersign

/-- Names that differ from each other are all kept. -/
theorem Parameters.toList_ofList {ps : List (String × String)} (h : (ps.map Prod.fst).Nodup) :
    (Parameters.ofList ps).toList = ps := by
  -- the names that are still to come are new behind those that are there
  have hadd : ∀ (qs : Parameters) (ps : List (String × String)),
      ((qs.toList ++ ps).map Prod.fst).Nodup →
        (ps.foldl (fun qs p => qs.add p.1 p.2) qs).toList = qs.toList ++ ps := by
    intro qs ps
    induction ps generalizing qs with
    | nil => simp
    | cons p ps ih =>
        intro hnodup
        have hnew : p.1 ∉ qs.toList.map Prod.fst := by
          rw [List.map_append, List.nodup_append] at hnodup
          exact fun hmem => hnodup.2.2 p.1 hmem p.1 (by simp) rfl
        have hone : (qs.add p.1 p.2).toList = qs.toList ++ [p] := by
          rw [qs.toList_add, if_neg hnew]
        have hrest := ih (qs.add p.1 p.2) (by rw [hone]; simpa using hnodup)
        rw [List.foldl_cons, hrest, hone]
        simp
  exact hadd Parameters.empty ps h

namespace Header

open Text

variable {w : Region} {b r s t : List Char} {c : Char}

/-! ## Closed texts -/

/-- Where a skip that counts angle brackets stands behind a character. -/
def Region.next : Region → Char → Region
  | .outside, c => if c = '"' then .quotes else if c = '<' then .angles else .outside
  | .quotes, c => if c = '\\' then .escaped else if c = '"' then .outside else .quotes
  | .escaped, _ => .quotes
  | .angles, c => if c = '>' then .outside else .angles

/-- The text ends outside quotes and angle brackets, and none of its commas stands there. -/
def Closed : Region → List Char → Prop
  | w, [] => w = .outside
  | w, c :: r => (w = .outside → c ≠ ',') ∧ Closed (w.next c) r

/-- Inside angle brackets a closed text has the bracket that ends them. -/
theorem Closed.exists_bracket (h : Closed .angles s) : '>' ∈ s := by
  induction s with
  | nil => cases h
  | cons c s ih =>
      by_cases hc : c = '>'
      · simp [hc]
      · have hstay : Region.angles.next c = .angles := if_neg hc
        have hrest : Closed .angles s := hstay ▸ h.2
        exact .tail _ (ih hrest)

theorem Closed.append_blanks (h : Closed w s) (hb : IsBlanks b) : Closed w (s ++ b) := by
  induction s generalizing w with
  | nil =>
      have hw : w = .outside := h
      subst hw
      induction b with
      | nil => rfl
      | cons c b ih =>
          have hc : isSpace c = true := hb c (.head _)
          have hstay : Region.outside.next c = .outside := by
            simp [Region.next, ne_of_isSpace hc (d := '"') rfl, ne_of_isSpace hc (d := '<') rfl]
          refine ⟨fun _ => ne_of_isSpace hc rfl, ?_⟩
          rw [hstay]
          exact ih fun d hd => hb d (.tail _ hd)
  | cons c s ih => exact ⟨h.1, ih h.2⟩

/-- A skip to the next comma goes through a closed text. -/
theorem Closed.skipFrom_append (h : Closed w s) :
    (skipFrom (· == ',') true w (s ++ r)).2 = (skipFrom (· == ',') true .outside r).2 := by
  induction s generalizing w with
  | nil =>
      have hw : w = .outside := h
      rw [List.nil_append, hw]
  | cons c s ih =>
      have hrest := ih h.2
      have hcomma : w = .outside → (c == ',') = false := fun hw => by simpa using h.1 hw
      cases w with
      | outside =>
          have hgo : (c == ',') = false := hcomma rfl
          by_cases hquote : c = '"'
          · simpa [skipFrom, Region.next, hquote] using hrest
          · by_cases hangle : c = '<'
            · simpa [skipFrom, Region.next, hangle] using hrest
            · simpa [skipFrom, Region.next, hquote, hangle, hgo] using hrest
      | quotes => simpa [skipFrom, Region.next] using hrest
      | escaped => simpa [skipFrom, Region.next] using hrest
      | angles => simpa [skipFrom, Region.next] using hrest

/-- The skip stops at the comma behind a closed text, or at the end. -/
theorem Closed.skipUntil_append (h : Closed .outside s) (hr : Halts (· != ',') r) :
    (skipUntil (· == ',') true (s ++ r)).2 = r := by
  rw [skipUntil, h.skipFrom_append]
  cases r with
  | nil => rfl
  | cons c r =>
      have hc : c = ',' := by simpa using hr c rfl
      rw [hc]
      rfl

/-! ## Pieces of parameters -/

/-- A parameter hides in quotes whatever is none of its own signs. -/
theorem Assigns.whole {stop : Char → Bool} {n v u : List Char} (h : Assigns u n v)
    (hstop : ∀ c, isTokenChar c = true ∨ isSpace c = true ∨ c = '=' ∨ c = '"' → stop c = false) :
    Whole stop .outside u := by
  rcases h with @⟨n, b, b', x, v, hname, hb, hb', hvalue⟩
  have hfront : ∀ c ∈ n ++ b ++ '=' :: b', isTokenChar c = true ∨ isSpace c = true ∨ c = '=' := by
    intro c hc
    rcases List.mem_append.1 hc with hc | hc
    · rcases List.mem_append.1 hc with hc | hc
      · exact .inl (hname.2 c hc)
      · exact .inr (.inl (hb c hc))
    · rcases List.mem_cons.1 hc with hc | hc
      · exact .inr (.inr hc)
      · exact .inr (.inl (hb' c hc))
  have hout : Mode.outside.behind (n ++ b ++ '=' :: b') = .outside := by
    refine Mode.behind_unquoted fun c hc => ?_
    rcases hfront c hc with htoken | hspace | hsign
    · exact ne_of_isTokenChar htoken (by decide)
    · exact ne_of_isSpace hspace rfl
    · rw [hsign]
      decide
  refine whole_append.2 ⟨whole_of_forall fun c hc => hstop c ?_, ?_⟩
  · rcases hfront c hc with htoken | hspace | hsign
    · exact .inl htoken
    · exact .inr (.inl hspace)
    · exact .inr (.inr (.inl hsign))
  · rw [hout]
    cases hvalue with
    | quoted hq => exact ⟨fun _ => hstop '"' (by simp), (hq.inside stop).1⟩
    | bare hw hp =>
        refine whole_of_forall fun c hc => hstop c ?_
        rcases List.mem_append.1 hc with hc | hc
        · exact .inl (hw.2 c hc)
        · exact .inr (.inr (.inl (hp c hc)))

theorem skipBlanks_append_cons (h : skipBlanks s = c :: r) : skipBlanks (s ++ t) = c :: (r ++ t) := by
  rcases exists_blanks s with ⟨b, hs, hb, hhalts⟩
  rw [h] at hs hhalts
  have hc : isSpace c = false := hhalts c rfl
  calc
    skipBlanks (s ++ t) = skipBlanks (b ++ (c :: (r ++ t))) := by rw [hs]; simp
    _ = c :: (r ++ t) := skipBlanks_append hb (.cons hc)

/-- Of two ways to cut a text, the one whose front has no stop ends first. -/
theorem prefix_of_whole {stop : Char → Bool} {u x y : List Char} (hu : Whole stop .outside u)
    (hx : Mode.outside.behind x = .outside) (hc : stop c = true) (h : u ++ y = x ++ c :: r) :
    ∃ z, x = u ++ z := by
  rcases List.append_eq_append_iff.1 h with ⟨z, hz, _⟩ | ⟨z, hz, hy⟩
  · exact ⟨z, hz⟩
  · cases z with
    | nil => exact ⟨[], by simpa using hz.symm⟩
    | cons d z =>
        -- the stop would stand in the front, outside quotes
        have hd : c = d := (List.cons.inj hy).1
        rw [hz, whole_append, hx] at hu
        have hfalse := hu.2.1 rfl
        rw [← hd, hc] at hfalse
        cases hfalse

end Header

namespace Link

open Text Header
open Challenge (displayParameter assigns_displayParameter)

variable {b m r s t target : List Char} {ps : List (List Char × List Char)}

/-! ## Spoiled elements -/

/-- The signs that may follow a parameter of a link. -/
theorem delimits_parameter : Delimits [';', ','] := by
  intro c hc
  rcases List.mem_cons.1 hc with rfl | hc
  · decide
  · rw [List.mem_singleton.1 hc]
    decide

theorem endsParameter_eq_false {c : Char}
    (h : isTokenChar c = true ∨ isSpace c = true ∨ c = '=' ∨ c = '"') : endsParameter c = false := by
  rcases h with htoken | hspace | rfl | rfl
  · have hsemicolon : c ≠ ';' := ne_of_isTokenChar htoken (by decide)
    have hcomma : c ≠ ',' := ne_of_isTokenChar htoken (by decide)
    simp [endsParameter, hsemicolon, hcomma]
  · have hsemicolon : c ≠ ';' := ne_of_isSpace hspace rfl
    have hcomma : c ≠ ',' := ne_of_isSpace hspace rfl
    simp [endsParameter, hsemicolon, hcomma]
  · rfl
  · rfl

/-- What comes behind the semicolon of a parameter. -/
theorem parametersFrom_semicolon (h : skipBlanks s = ';' :: r) :
    parametersFrom s = match skipBlanks r with
      | [] => some ([], [])
      | d :: t =>
        if endsParameter d then parametersFrom (d :: t)
        else match param [';', ','] (d :: t) with
          | some (p, rest) => (parametersFrom rest).map fun q => (p :: q.1, q.2)
          | none => parametersFrom (skipUntil endsParameter false (d :: t)).2 := by
  rw [parametersFrom]
  split
  · rename_i hnil
    simp [h] at hnil
  · rename_i c r' hs
    rw [h] at hs
    cases hs
    simp only [Char.reduceEq, if_false, if_true]
    split <;> rename_i hr <;> simp only [hr]
    split
    · rfl
    · split <;> rename_i hp <;> simp only [hp]

/-- A malformed parameter that something ends stays malformed, whatever follows. -/
theorem param_append_none (h : param [';', ','] s = none)
    (hends : (skipUntil endsParameter false s).2 ≠ []) : param [';', ','] (s ++ t) = none := by
  have hparts : Parts endsParameter .outside s _ _ := parts_skipUntil rfl s
  generalize hu : (skipUntil endsParameter false s).1 = u at hparts
  generalize hv : (skipUntil endsParameter false s).2 = v at hparts hends
  rcases hparts with ⟨hs, _, hstop⟩
  rcases hstop with rfl | ⟨hout, c, v, rfl, hc⟩
  · exact absurd rfl hends
  · cases hp : param [';', ','] (s ++ t) with
    | none => rfl
    | some p =>
        rcases p with ⟨⟨n, x⟩, y⟩
        rcases (param_eq_some delimits_parameter).1 hp with ⟨w, hsplit, hassigns, hend⟩
        have hcut : w ++ y = u ++ c :: (v ++ t) := by
          rw [← hsplit, hs]
          simp
        -- the parameter ends before the text that the skip stops at, so it was there before
        rcases prefix_of_whole (hassigns.whole fun d => endsParameter_eq_false) hout hc hcut
          with ⟨z, rfl⟩
        have hy : y = z ++ c :: (v ++ t) := by simpa using hcut
        have hend' : atDelimiter [';', ','] (z ++ c :: v) = true := by
          rw [hy] at hend
          cases z with
          | nil => exact hend
          | cons d z => exact hend
        have hread : param [';', ','] s = some ((n, x), z ++ c :: v) :=
          (param_eq_some delimits_parameter).2 ⟨w, by rw [hs]; simp, hassigns, hend'⟩
        rw [h] at hread
        cases hread

theorem param_append_some {n v : List Char} (h : param [';', ','] s = some ((n, v), r)) (hr : r ≠ []) :
    param [';', ','] (s ++ t) = some ((n, v), r ++ t) := by
  rcases (param_eq_some delimits_parameter).1 h with ⟨w, rfl, hassigns, hend⟩
  refine (param_eq_some delimits_parameter).2 ⟨w, by simp, hassigns, ?_⟩
  cases r with
  | nil => exact absurd rfl hr
  | cons c r => exact hend

theorem skipUntil_append (hends : (skipUntil endsParameter false s).2 ≠ []) :
    (skipUntil endsParameter false (s ++ t)).2 = (skipUntil endsParameter false s).2 ++ t := by
  have hparts : Parts endsParameter .outside s _ _ := parts_skipUntil rfl s
  generalize (skipUntil endsParameter false s).1 = u at hparts
  generalize (skipUntil endsParameter false s).2 = v at hparts hends ⊢
  rcases hparts with ⟨rfl, hwhole, hstop⟩
  rcases hstop with rfl | ⟨hout, c, v, rfl, hc⟩
  · exact absurd rfl hends
  · have hlonger : Parts endsParameter .outside (u ++ c :: v ++ t) u (c :: v ++ t) :=
      ⟨by simp, hwhole, .inr ⟨hout, c, v ++ t, rfl, hc⟩⟩
    rw [hlonger.skipUntil_eq rfl]

theorem parametersFrom_nil : parametersFrom [] = some ([], []) := by
  rw [parametersFrom]
  rfl

/-- What no parameters can be read from spoils every text that begins with it. -/
theorem parametersFrom_append_none (h : parametersFrom s = none) :
    parametersFrom (s ++ t) = none := by
  -- the text is not used up where it fails, so what stood before is read as it was
  have hrest : ∀ {u : List Char}, parametersFrom u = none → u ≠ [] := by
    rintro u hu rfl
    simp [parametersFrom_nil] at hu
  fun_induction parametersFrom s with
  -- the first three cases end in parameters, and the others read on as they did
  | case1 => cases h
  | case2 => cases h
  | case3 => cases h
  | case4 s r d u hr hd hs _ ih =>
      rw [parametersFrom_semicolon (skipBlanks_append_cons hs), skipBlanks_append_cons hr]
      simpa [hd] using ih h
  | case5 s r d u hr hd p rest hp hs _ ih =>
      have hnone : parametersFrom rest = none := by simpa using h
      have hlonger := param_append_some (t := t) hp (hrest hnone)
      rw [parametersFrom_semicolon (skipBlanks_append_cons hs), skipBlanks_append_cons hr]
      rw [List.cons_append] at hlonger
      simp [hd, hlonger, ih hnone]
  | case6 s r d u hr hd hp hs _ ih =>
      have hends := hrest h
      have hlonger := param_append_none (t := t) hp hends
      have hskip := skipUntil_append (t := t) hends
      rw [parametersFrom_semicolon (skipBlanks_append_cons hs), skipBlanks_append_cons hr]
      rw [List.cons_append] at hlonger hskip
      simp [hd, hlonger, hskip, ih h]
  | case7 s c r hs hcomma hsemicolon =>
      rw [parametersFrom]
      split
      · rename_i hnil
        simp [skipBlanks_append_cons hs] at hnil
      · rename_i c' r' hs'
        rw [skipBlanks_append_cons hs] at hs'
        cases hs'
        rw [if_neg hcomma, if_neg hsemicolon]

/-- What is no link does not become one by what follows it, if it closes its angle brackets. -/
theorem linkElement_append_none (hne : m ≠ []) (hclosed : Closed .outside m)
    (h : linkElement m = none) : linkElement (m ++ r) = none := by
  rcases List.exists_cons_of_ne_nil hne with ⟨c, t, rfl⟩
  by_cases hc : c = '<'
  · subst hc
    have hbracket : '>' ∈ t := (show Closed .angles t from hclosed.2).exists_bracket
    -- the target ends at the bracket at the latest
    cases hrest : t.dropWhile isReferenceChar with
    | nil =>
        have hall := List.dropWhile_eq_nil_iff.1 hrest '>' hbracket
        exact absurd hall (by decide)
    | cons d u =>
        have hshort : (t.takeWhile isReferenceChar).length ≠ t.length := by
          have hlength : (t.takeWhile isReferenceChar ++ d :: u).length = t.length := by
            rw [← hrest, List.takeWhile_append_dropWhile]
          rw [List.length_append, List.length_cons] at hlength
          omega
        have hdrop : (t ++ r).dropWhile isReferenceChar = d :: (u ++ r) := by
          rw [List.dropWhile_append, hrest]
          rfl
        have htake : (t ++ r).takeWhile isReferenceChar = t.takeWhile isReferenceChar := by
          rw [List.takeWhile_append, if_neg hshort]
        by_cases hd : d = '>'
        · subst hd
          simp only [linkElement, hrest] at h
          simp only [linkElement, List.cons_append, hdrop, htake]
          split
          · rename_i htarget
            rw [if_pos htarget, Option.map_eq_none_iff] at h
            rw [parametersFrom_append_none h, Option.map_none]
          · rfl
        · simp [linkElement, hdrop, hd]
  · simp [linkElement, hc]

/-! ## Written links -/

/-- The written form of a link can be read: its target can be one, the names of its parameters are
tokens, and no value holds a control character other than a tab. -/
structure Writable (l : Link) : Prop where
  target : ∀ c ∈ l.target.toList, isReferenceChar c = true
  reference : isReference l.target.toList = true
  names : ∀ p ∈ l.parameters.toList, IsToken p.1.toList
  values : ∀ p ∈ l.parameters.toList, Plain p.2.toList

/-- The parameters end at a comma, or with the text. -/
theorem parametersFrom_blanks (hb : IsBlanks b) (hr : Halts (· != ',') r) :
    parametersFrom (b ++ r) = some ([], r) := by
  have hcomma : ∀ c ∈ r.head?, c = ',' := fun c hc => by simpa using hr c hc
  have hspace : Halts isSpace r := fun c hc => by
    rw [hcomma c hc]
    rfl
  have hskip := skipBlanks_append hb hspace
  rw [parametersFrom]
  split
  · rename_i hnil
    rw [hskip] at hnil
    rw [hnil]
  · rename_i c t hs
    rw [hskip] at hs
    have hc : c = ',' := hcomma c (by simp [hs])
    rw [if_pos hc, ← hs]

/-- Behind a written parameter comes the next one, a blank, or the end of the link. -/
theorem atDelimiter_written (ps : List (String × String)) (hb : IsBlanks b)
    (hr : Halts (· != ',') r) :
    atDelimiter [';', ','] ((ps.flatMap fun p => ';' :: ' ' :: displayParameter p) ++ (b ++ r)) =
      true := by
  have hcomma : ∀ c ∈ r.head?, c = ',' := fun c hc => by simpa using hr c hc
  cases ps with
  | cons q ps => rfl
  | nil =>
      rw [List.flatMap_nil, List.nil_append]
      cases b with
      | cons c b => simp [atDelimiter, hb c (.head _)]
      | nil =>
          cases r with
          | nil => rfl
          | cons c r => simp [atDelimiter, hcomma c rfl]

/-- A written parameter begins with the first character of its name. -/
theorem displayParameter_eq_cons {p : String × String} (hname : IsToken p.1.toList) :
    ∃ d u, displayParameter p = d :: u ∧ isTokenChar d = true := by
  rcases hname with ⟨hne, hall⟩
  rcases List.exists_cons_of_ne_nil hne with ⟨d, u, hd⟩
  refine ⟨d, u ++ '=' :: quoted p.2.toList, ?_, hall d (by simp [hd])⟩
  rw [displayParameter, hd]
  rfl

/-- Written parameters are read one by one. -/
theorem parametersFrom_written {ps : List (String × String)}
    (hps : ∀ p ∈ ps, IsToken p.1.toList ∧ Plain p.2.toList) (hb : IsBlanks b)
    (hr : Halts (· != ',') r) :
    parametersFrom ((ps.flatMap fun p => ';' :: ' ' :: displayParameter p) ++ (b ++ r)) =
      some (ps.map fun p => (p.1.toList, p.2.toList), r) := by
  induction ps with
  | nil => simpa using parametersFrom_blanks hb hr
  | cons p ps ih =>
      have hp := hps p (.head _)
      have hrest := ih fun q hq => hps q (.tail _ hq)
      have hend := atDelimiter_written ps hb hr
      generalize htext : (ps.flatMap fun q => ';' :: ' ' :: displayParameter q) ++ (b ++ r) = text
        at hrest hend
      have hread : param [';', ','] (displayParameter p ++ text) =
          some ((p.1.toList, p.2.toList), text) :=
        (param_eq_some delimits_parameter).2 ⟨_, rfl, assigns_displayParameter hp.1 hp.2, hend⟩
      rcases displayParameter_eq_cons hp.1 with ⟨d, u, hd, htoken⟩
      have hgo : endsParameter d = false := endsParameter_eq_false (.inl htoken)
      have hspace : Halts isSpace (d :: (u ++ text)) := .cons (isSpace_of_isTokenChar htoken)
      have hblank : skipBlanks (' ' :: (displayParameter p ++ text)) = d :: (u ++ text) := by
        rw [hd]
        exact skipBlanks_append (w := [' ']) (by simp [IsBlanks, isSpace]) hspace
      have hopen : skipBlanks (';' :: ' ' :: (displayParameter p ++ text)) =
          ';' :: ' ' :: (displayParameter p ++ text) :=
        skipBlanks_append (w := []) isBlanks_nil (.cons rfl)
      rw [hd, List.cons_append] at hread
      calc
        parametersFrom (((p :: ps).flatMap fun p => ';' :: ' ' :: displayParameter p) ++ (b ++ r))
          = parametersFrom (';' :: ' ' :: (displayParameter p ++ text)) := by
            rw [← htext]
            simp
        _ = (parametersFrom text).map fun q => ((p.1.toList, p.2.toList) :: q.1, q.2) := by
            rw [parametersFrom_semicolon hopen, hblank]
            simp [hgo, hread]
        _ = some ((p :: ps).map fun p => (p.1.toList, p.2.toList), r) := by
            rw [hrest]
            rfl

variable {l : Link}

theorem Writable.linkElement_display (h : l.Writable) (hb : IsBlanks b) (hr : Halts (· != ',') r) :
    linkElement (l.displayChars ++ (b ++ r)) =
      some ((l.target.toList, l.parameters.toList.map fun p => (p.1.toList, p.2.toList)), r) := by
  have hclose : Halts isReferenceChar
      ('>' :: ((l.parameters.toList.flatMap fun p => ';' :: ' ' :: displayParameter p) ++ (b ++ r))) :=
    .cons (by decide)
  have hps := parametersFrom_written (fun p hp => ⟨h.names p hp, h.values p hp⟩) hb hr
  have htext : l.displayChars ++ (b ++ r) = '<' :: (l.target.toList ++ '>' ::
      ((l.parameters.toList.flatMap fun p => ';' :: ' ' :: displayParameter p) ++ (b ++ r))) := by
    simp [displayChars, displayParameter]
  rw [htext, linkElement, dropWhile_eq h.target hclose, takeWhile_eq h.target hclose]
  simp [h.reference, hps]

theorem ofParts_toList (l : Link) :
    ofParts l.target.toList (l.parameters.toList.map fun p => (p.1.toList, p.2.toList)) = l := by
  have hparameters : Parameters.ofChars (l.parameters.toList.map fun p => (p.1.toList, p.2.toList)) =
      l.parameters := by
    have hchars : (l.parameters.toList.map fun p => (p.1.toList, p.2.toList)).map
        (fun p => (String.ofList p.1, String.ofList p.2)) = l.parameters.toList := by
      simp [Function.comp_def]
    rw [Parameters.ofChars, hchars]
    exact Parameters.eq_of_toList_eq (Parameters.toList_ofList l.parameters.nodup)
  rw [ofParts, hparameters, String.ofList_toList]

theorem Writable.element_display (h : l.Writable) (hb : IsBlanks b) (hr : Halts (· != ',') r) :
    element (l.displayChars ++ (b ++ r)) = (some l, r) := by
  rw [element, h.linkElement_display hb hr]
  simp [ofParts_toList]

/-! ## Elements of a list -/

/-- A text that stands as one element of a list and is no link. -/
structure Malformed (m : List Char) : Prop where
  begins : Halts isSpace m
  closed : Closed .outside m
  spoiled : linkElement m = none

theorem Malformed.element_append (h : Malformed m) (hne : m ≠ []) (hb : IsBlanks b)
    (hr : Halts (· != ',') r) : element (m ++ (b ++ r)) = (none, r) := by
  have hskip := (h.closed.append_blanks hb).skipUntil_append hr
  rw [element, linkElement_append_none hne h.closed h.spoiled, ← List.append_assoc, hskip]

/-- What a header value holds: a link, or a text that is none. -/
inductive Element where
  | link (l : Link)
  | malformed (m : List Char)

namespace Element

def chars : Element → List Char
  | .link l => l.displayChars
  | .malformed m => m

def link? : Element → Option Link
  | .link l => some l
  | .malformed _ => none

/-- A link that can be written, or a malformed text. -/
def Admissible : Element → Prop
  | .link l => l.Writable
  | .malformed m => Malformed m

variable {e : Element}

/-- An element that is no empty text is read up to the comma behind it. -/
theorem Admissible.element_append (h : e.Admissible) (hne : e.chars ≠ []) (hb : IsBlanks b)
    (hr : Halts (· != ',') r) : element (e.chars ++ (b ++ r)) = (e.link?, r) := by
  cases e with
  | link l => exact Writable.element_display h hb hr
  | malformed m => exact Malformed.element_append h hne hb hr

theorem Admissible.beginsVisibly (h : e.Admissible) (hne : e.chars ≠ []) : BeginsVisibly e.chars := by
  cases e with
  | link l => exact ⟨'<', _, rfl, by decide⟩
  | malformed m =>
      rcases List.exists_cons_of_ne_nil hne with ⟨c, t, hm⟩
      have hmalformed : Malformed m := h
      have hm' : m = c :: t := hm
      have hspace : isSpace c = false := hmalformed.begins c (by simp [hm'])
      have hcomma : c ≠ ',' := by
        have hclosed := hmalformed.closed
        rw [hm'] at hclosed
        exact hclosed.1 rfl
      exact ⟨c, t, hm, by simp [isSeparator, hcomma, hspace]⟩

end Element

/-- An element with the blanks around it. -/
structure Placed where
  before : List Char
  element : Element
  after : List Char

namespace Placed

def chars (p : Placed) : List Char := p.before ++ p.element.chars ++ p.after

def link? (p : Placed) : Option Link := p.element.link?

/-- Blanks surround an element that may stand in a list. -/
structure Admissible (p : Placed) : Prop where
  before : IsBlanks p.before
  element : p.element.Admissible
  after : IsBlanks p.after

end Placed

/-- The header value of some elements, separated by commas. -/
def headerValue (ps : List Placed) : String := String.ofList ([','].intercalate (ps.map Placed.chars))

theorem parseChars_cons {c : Char} (h : skipSeparators s = c :: r) :
    parseChars s = (element (c :: r)).1.toList ++ parseChars (element (c :: r)).2 := by
  rw [parseChars]
  split
  · rename_i hnil
    simp [h] at hnil
  · rename_i hs
    rw [h] at hs
    cases hs
    rfl

theorem parseChars_nil (h : skipSeparators s = []) : parseChars s = [] := by
  rw [parseChars]
  split
  · rfl
  · rename_i hs
    simp [h] at hs

/-- Separators in front of a text do not matter. -/
theorem parseChars_skip (hb : ∀ c ∈ b, isSeparator c = true) : parseChars (b ++ s) = parseChars s := by
  have hskip : skipSeparators (b ++ s) = skipSeparators s := List.dropWhile_append_of_pos hb
  cases hs : skipSeparators s with
  | nil => rw [parseChars_nil hs, parseChars_nil (hskip.trans hs)]
  | cons c r => rw [parseChars_cons hs, parseChars_cons (hskip.trans hs)]

theorem isSeparator_of_mem (hb : IsBlanks b) : ∀ c ∈ b, isSeparator c = true := fun c hc => by
  simp [isSeparator, hb c hc]

/-- One element in front of a comma, or of the end, adds its link and nothing else. -/
theorem Placed.Admissible.parseChars_append {p : Placed} (h : p.Admissible)
    (hr : Halts (· != ',') r) : parseChars (p.chars ++ r) = p.link?.toList ++ parseChars r := by
  have htext : p.chars ++ r = p.before ++ (p.element.chars ++ (p.after ++ r)) := by
    simp [Placed.chars]
  rw [htext, parseChars_skip (isSeparator_of_mem h.before)]
  by_cases hne : p.element.chars = []
  · -- an empty text leaves its blanks only
    have hnone : p.link? = none := by
      cases hp : p.element with
      | link l => simp [hp, Element.chars, displayChars] at hne
      | malformed m => simp [Placed.link?, hp, Element.link?]
    rw [hne, List.nil_append, parseChars_skip (isSeparator_of_mem h.after), hnone]
    rfl
  · rcases h.element.beginsVisibly hne with ⟨c, t, hc, hvisible⟩
    have hread := h.element.element_append hne h.after hr
    have hskip : skipSeparators (p.element.chars ++ (p.after ++ r)) =
        c :: (t ++ (p.after ++ r)) := by
      rw [hc]
      exact dropWhile_eq (w := []) (by simp) (.cons hvisible)
    rw [parseChars_cons hskip, ← List.cons_append, ← hc, hread]
    rfl

theorem parse_headerValue {ps : List Placed} (h : ∀ p ∈ ps, p.Admissible) :
    parse (headerValue ps) = ps.filterMap Placed.link? := by
  have hchars : parseChars ([','].intercalate (ps.map Placed.chars)) = ps.filterMap Placed.link? := by
    induction ps with
    | nil => exact parseChars_nil rfl
    | cons p ps ih =>
        have hp := h p (.head _)
        have hrest := ih fun q hq => h q (.tail _ hq)
        cases ps with
        | nil =>
            have hlast := hp.parseChars_append (r := []) .nil
            rw [List.append_nil, parseChars_nil (s := []) rfl, List.append_nil] at hlast
            rw [List.map_singleton, List.intercalate_singleton, hlast]
            cases hl : p.link? <;> simp [hl]
        | cons q ps =>
            have hcomma : Halts (· != ',') (',' :: [','].intercalate ((q :: ps).map Placed.chars)) :=
              .cons rfl
            have hskip : parseChars (',' :: [','].intercalate ((q :: ps).map Placed.chars)) =
                parseChars ([','].intercalate ((q :: ps).map Placed.chars)) :=
              parseChars_skip (b := [',']) (by simp [isSeparator])
            calc
              parseChars ([','].intercalate ((p :: q :: ps).map Placed.chars))
                = parseChars (p.chars ++ ',' :: [','].intercalate ((q :: ps).map Placed.chars)) := by
                  rw [List.map_cons, List.map_cons, List.intercalate_cons_cons, ← List.map_cons]
                  simp
              _ = p.link?.toList ++ (q :: ps).filterMap Placed.link? := by
                  rw [hp.parseChars_append hcomma, hskip, hrest]
              _ = (p :: q :: ps).filterMap Placed.link? := by
                  cases hl : p.link? <;> simp [hl]
  rw [parse, headerValue, String.toList_ofList, hchars]

/-- Links that are written among malformed elements, in any number of header values and whatever their
targets and values hold, are exactly the links that are read, in the same order. -/
theorem links_read_back (values : List (List Placed)) (h : ∀ ps ∈ values, ∀ p ∈ ps, p.Admissible) :
    parseAll (values.map headerValue) = values.flatten.filterMap Placed.link? := by
  induction values with
  | nil => rfl
  | cons ps values ih =>
      have hrest := ih fun qs hqs => h qs (.tail _ hqs)
      calc
        parseAll ((ps :: values).map headerValue)
          = parse (headerValue ps) ++ parseAll (values.map headerValue) := by
            simp [parseAll]
        _ = ps.filterMap Placed.link? ++ values.flatten.filterMap Placed.link? := by
            rw [parse_headerValue (h ps (.head _)), hrest]
        _ = (ps :: values).flatten.filterMap Placed.link? := by
            simp

instance decidableClosed : ∀ (w : Region) (s : List Char), Decidable (Closed w s)
  | w, [] => inferInstanceAs (Decidable (w = .outside))
  | w, c :: r =>
    haveI := decidableClosed (w.next c) r
    inferInstanceAs (Decidable ((w = .outside → c ≠ ',') ∧ Closed (w.next c) r))

instance (p : Char → Bool) : ∀ r : List Char, Decidable (Halts p r)
  | [] => isTrue .nil
  | c :: _ => decidable_of_iff (p c = false) ⟨.cons, fun h => h c rfl⟩

instance (m : List Char) : Decidable (Malformed m) :=
  decidable_of_iff (Halts isSpace m ∧ Closed .outside m ∧ linkElement m = none)
    ⟨fun ⟨hbegins, hclosed, hspoiled⟩ => ⟨hbegins, hclosed, hspoiled⟩,
    fun h => ⟨h.begins, h.closed, h.spoiled⟩⟩

instance (l : Link) : Decidable l.Writable :=
  decidable_of_iff (l.target.toList.all isReferenceChar ∧ isReference l.target.toList ∧
      (l.parameters.toList.all fun p => !p.1.toList.isEmpty && p.1.toList.all isTokenChar) ∧
      l.parameters.toList.all fun p => p.2.toList.all fun x => x = '\t' ∨ isControl x = false)
    ⟨fun ⟨htarget, hreference, hnames, hvalues⟩ =>
      ⟨by simpa using htarget, hreference, by simpa [IsToken] using hnames, by simpa [Plain] using hvalues⟩,
    fun h => ⟨by simpa using h.target, h.reference, by simpa [IsToken] using h.names,
      by simpa [Plain] using h.values⟩⟩

instance : ∀ e : Element, Decidable e.Admissible
  | .link l => inferInstanceAs (Decidable l.Writable)
  | .malformed m => inferInstanceAs (Decidable (Malformed m))

instance (p : Placed) : Decidable p.Admissible :=
  decidable_of_iff (p.before.all isSpace ∧ p.element.Admissible ∧ p.after.all isSpace)
    ⟨fun ⟨hbefore, helement, hafter⟩ =>
      ⟨by simpa [IsBlanks] using hbefore, helement, by simpa [IsBlanks] using hafter⟩,
    fun h => ⟨by simpa [IsBlanks] using h.before, h.element, by simpa [IsBlanks] using h.after⟩⟩

/-- Links whose targets and values hold all that separates links, among elements that are none. -/
def jumbled : List (List Placed) :=
  [[⟨[], .link ⟨"/a,b;c", Parameters.ofList [("rel", "acl"), ("title", "d, \"<e>\"; \\")]⟩, [' ']⟩,
      ⟨[], .malformed "<f g>; h=\"i, j\"".toList, []⟩],
    [⟨['\t'], .malformed "<k> l; m=\"<n\"".toList, []⟩, ⟨[], .malformed [], []⟩,
      ⟨[' '], .link ⟨"urn:o", .empty⟩, []⟩]]

example : jumbled.map headerValue =
    ["</a,b;c>; rel=\"acl\"; title=\"d, \\\"<e>\\\"; \\\\\" ,<f g>; h=\"i, j\"",
      "\t<k> l; m=\"<n\",, <urn:o>"] := by
  decide +kernel

/-- Both links come back from between the elements that are none. -/
theorem links_read_back_jumbled :
    (∀ ps ∈ jumbled, ∀ p ∈ ps, p.Admissible) ∧
      parseAll (jumbled.map headerValue) =
        [⟨"/a,b;c", Parameters.ofList [("rel", "acl"), ("title", "d, \"<e>\"; \\")]⟩,
          ⟨"urn:o", .empty⟩] := by
  have hjumbled : ∀ ps ∈ jumbled, ∀ p ∈ ps, p.Admissible := by
    have hall : (jumbled.all fun ps => ps.all fun p => p.Admissible) = true := by decide +kernel
    simpa using hall
  exact ⟨hjumbled, links_read_back jumbled hjumbled⟩

end Link
end Countersign
