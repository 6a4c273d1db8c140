import Countersign.Header.Grammar
import Mathlib.Data.List.TakeWhile

/-!
# Header grammar — what the scanners accept

The scanners of header values walk a text from the left.  Here the items they look for are described
as texts on their own, and each scanner is related to its item: it succeeds exactly on the texts that
start with the item and go on as the item may be followed.

* `Mode`, `Whole` — where a text stands with respect to quotes, and texts in which nothing outside
  quotes is accepted;
* `Parts` — the cut that `skipUntil` makes, with its uniqueness;
* `IsToken`, `IsBlanks`, `Quotes`, `Denotes`, `Assigns`, `IsToken68` — the items;
* `quotedRest_eq_some`, `param_eq_some`, `token68_eq_some` — the scanners.
-/

namespace Countersign
namespace Header

open Text

/-! ## Quotes -/

/-- Where a text stands: outside quotes, in a quoted string, or behind a backslash in one. -/
inductive Mode where
  | outside
  | quoted
  | hidden
deriving DecidableEq, Repr

namespace Mode

def next : Mode → Char → Mode
  | .outside, c => if c = '"' then .quoted else .outside
  | .quoted, c => if c = '"' then .outside else if c = '\\' then .hidden else .quoted
  | .hidden, _ => .quoted

/-- Where a text stands behind some of its characters. -/
def behind (m : Mode) (w : List Char) : Mode := w.foldl next m

def region : Mode → Region
  | .outside => .outside
  | .quoted => .quotes
  | .hidden => .escaped

variable {m : Mode} {w : List Char}

@[simp] theorem behind_nil : m.behind [] = m := rfl

@[simp] theorem behind_cons {c : Char} : m.behind (c :: w) = (m.next c).behind w := rfl

@[simp] theorem behind_append {u : List Char} : m.behind (w ++ u) = (m.behind w).behind u :=
  List.foldl_append

/-- Outside quotes only a quote matters. -/
theorem behind_unquoted (h : ∀ c ∈ w, c ≠ '"') : Mode.outside.behind w = .outside := by
  induction w with
  | nil => rfl
  | cons c w ih =>
      have hc : Mode.outside.next c = .outside := if_neg (h c (by simp))
      have hw : ∀ d ∈ w, d ≠ '"' := fun d hd => h d (by simp [hd])
      simpa [hc] using ih hw

/-- Without a quote nothing leads out of quotes. -/
theorem behind_ne_outside (hm : m ≠ .outside) (h : ∀ c ∈ w, c ≠ '"') : m.behind w ≠ .outside := by
  induction w generalizing m with
  | nil => exact hm
  | cons c w ih =>
      have hc : m.next c ≠ .outside := by
        have hne : c ≠ '"' := h c (by simp)
        cases m with
        | outside => exact absurd rfl hm
        | quoted =>
            by_cases hb : c = '\\'
            · simp [next, hb]
            · simp [next, hne, hb]
        | hidden => simp [next]
      exact ih hc fun d hd => h d (by simp [hd])

end Mode

/-- No character of a text that stands outside quotes is accepted. -/
def Whole (stop : Char → Bool) : Mode → List Char → Prop
  | _, [] => True
  | m, c :: r => (m = .outside → stop c = false) ∧ Whole stop (m.next c) r

variable {stop : Char → Bool} {m : Mode} {a b s r t w : List Char}

@[simp] theorem whole_nil : Whole stop m [] := trivial

theorem whole_append : Whole stop m (w ++ t) ↔ Whole stop m w ∧ Whole stop (m.behind w) t := by
  induction w generalizing m with
  | nil => simp
  | cons c w ih => simp [Whole, ih, and_assoc]

theorem whole_of_forall (h : ∀ c ∈ w, stop c = false) : Whole stop m w := by
  induction w generalizing m with
  | nil => trivial
  | cons c w ih => exact ⟨fun _ => h c (by simp), ih fun d hd => h d (by simp [hd])⟩

theorem Whole.or {stop₁ stop₂ : Char → Bool} (h₁ : Whole stop₁ m w) (h₂ : Whole stop₂ m w) :
    Whole (fun c => stop₁ c || stop₂ c) m w := by
  induction w generalizing m with
  | nil => trivial
  | cons c w ih => exact ⟨fun hm => by simp [h₁.1 hm, h₂.1 hm], ih h₁.2 h₂.2⟩

/-- In quotes that nothing closes, nothing is accepted. -/
theorem whole_of_ne_outside (hm : m ≠ .outside) (h : ∀ c ∈ w, c ≠ '"') : Whole stop m w := by
  induction w generalizing m with
  | nil => trivial
  | cons c w ih =>
      have hc : m.next c ≠ .outside := Mode.behind_ne_outside (w := [c]) hm (by simpa using h c (by simp))
      exact ⟨fun hout => absurd hout hm, ih hc fun d hd => h d (by simp [hd])⟩

/-- The front of a text up to the first character outside quotes that is accepted, and the rest. -/
structure Parts (stop : Char → Bool) (m : Mode) (s a b : List Char) : Prop where
  text : s = a ++ b
  whole : Whole stop m a
  ends : b = [] ∨ m.behind a = .outside ∧ ∃ c t, b = c :: t ∧ stop c = true

theorem skipFrom_cons (hq : stop '"' = false) (c : Char) :
    skipFrom stop false m.region (c :: r) =
      if m = .outside ∧ stop c = true then ([], c :: r)
      else took c (skipFrom stop false (m.next c).region r) := by
  -- angle brackets do not count, so a skip outside quotes looks for a quote and for a stop only
  cases m with
  | outside =>
      by_cases hc : c = '"'
      · subst hc
        simp [skipFrom, Mode.region, Mode.next, hq]
      · simp [skipFrom, Mode.region, Mode.next, hc]
  | quoted =>
      by_cases hc : c = '"'
      · subst hc
        simp [skipFrom, Mode.region, Mode.next]
      · by_cases hb : c = '\\'
        · simp [skipFrom, Mode.region, Mode.next, hb]
        · simp [skipFrom, Mode.region, Mode.next, hc, hb]
  | hidden => simp [skipFrom, Mode.region, Mode.next]

theorem parts_skipFrom (hq : stop '"' = false) (m : Mode) (s : List Char) :
    Parts stop m s (skipFrom stop false m.region s).1 (skipFrom stop false m.region s).2 := by
  induction s generalizing m with
  | nil =>
      have hnil : skipFrom stop false m.region [] = ([], []) := by cases m <;> rfl
      rw [hnil]
      exact ⟨rfl, trivial, .inl rfl⟩
  | cons c s ih =>
      rw [skipFrom_cons hq]
      split
      · rename_i hstop
        exact ⟨rfl, trivial, .inr ⟨hstop.1, c, s, rfl, hstop.2⟩⟩
      · rename_i hstop
        have hrest := ih (m.next c)
        refine ⟨congrArg (c :: ·) hrest.text, ⟨fun hm => ?_, hrest.whole⟩, ?_⟩
        · simpa [hm] using hstop
        · simpa using hrest.ends

/-- There is only one such cut. -/
theorem Parts.skipFrom_eq (hq : stop '"' = false) (h : Parts stop m s a b) :
    skipFrom stop false m.region s = (a, b) := by
  rcases h with ⟨rfl, hwhole, hends⟩
  -- the skip goes through the front, since nothing in it stops it, and then has to stop
  induction a generalizing m with
  | nil =>
      rcases hends with rfl | ⟨hm, c, t, rfl, hc⟩
      · cases m <;> rfl
      · have hstop : m = .outside ∧ stop c = true := ⟨hm, hc⟩
        rw [List.nil_append, skipFrom_cons hq, if_pos hstop]
  | cons c a ih =>
      have hgo : ¬ (m = .outside ∧ stop c = true) := by
        rintro ⟨hm, hc⟩
        simp [hwhole.1 hm] at hc
      rw [List.cons_append, skipFrom_cons hq, if_neg hgo, ih hwhole.2 hends]
      rfl

theorem parts_skipUntil (hq : stop '"' = false) (s : List Char) :
    Parts stop .outside s (skipUntil stop false s).1 (skipUntil stop false s).2 :=
  parts_skipFrom hq .outside s

theorem Parts.skipUntil_eq (hq : stop '"' = false) (h : Parts stop .outside s a b) :
    skipUntil stop false s = (a, b) :=
  h.skipFrom_eq hq

/-! ## The items -/

/-- A non-empty text of token characters. -/
def IsToken (w : List Char) : Prop := w ≠ [] ∧ ∀ c ∈ w, isTokenChar c = true

def IsBlanks (w : List Char) : Prop := ∀ c ∈ w, isSpace c = true

def IsPadding (w : List Char) : Prop := ∀ c ∈ w, c = '='

/-- A text with its closing quote is the quoted form of a value, behind an opening quote. -/
inductive Quotes : List Char → List Char → Prop where
  | closing : Quotes ['"'] []
  | hidden {c : Char} {w v : List Char} (h : Quotes w v) : Quotes ('\\' :: c :: w) (c :: v)
  | plain {c : Char} {w v : List Char} (hquote : c ≠ '"') (hslash : c ≠ '\\')
      (hc : c = '\t' ∨ isControl c = false) (h : Quotes w v) : Quotes (c :: w) (c :: v)

/-- A text is the written form of a value: a quoted string, or a token with its padding. -/
inductive Denotes : List Char → List Char → Prop where
  | quoted {w v : List Char} (h : Quotes w v) : Denotes ('"' :: w) v
  | bare {w p : List Char} (hw : IsToken w) (hp : IsPadding p) : Denotes (w ++ p) (w ++ p)

/-- A text as a whole assigns a value to a name. -/
inductive Assigns : List Char → List Char → List Char → Prop where
  | mk {name b b' x value : List Char} (hname : IsToken name) (hb : IsBlanks b) (hb' : IsBlanks b')
      (hvalue : Denotes x value) : Assigns (name ++ b ++ '=' :: b' ++ x) name value

/-- A text of token68 characters with its padding. -/
inductive IsToken68 : List Char → Prop where
  | mk {w p : List Char} (hne : w ≠ []) (hw : ∀ c ∈ w, isToken68Char c = true) (hp : IsPadding p) :
      IsToken68 (w ++ p)

instance (w : List Char) : Decidable (IsToken w) :=
  decidable_of_iff ((!w.isEmpty && w.all isTokenChar) = true) (by simp [IsToken])

theorem isBlanks_nil : IsBlanks [] := by
  intro c hc
  cases hc

theorem ne_of_isTokenChar {c d : Char} (h : isTokenChar c = true) (hd : isTokenChar d = false) :
    c ≠ d := by
  rintro rfl
  simp [h] at hd

theorem ne_of_isSpace {c d : Char} (h : isSpace c = true) (hd : isSpace d = false) : c ≠ d := by
  rintro rfl
  simp [h] at hd

theorem isSpace_of_isTokenChar {c : Char} (h : isTokenChar c = true) : isSpace c = false := by
  have hsep := isSeparator_eq_false h
  simp only [isSeparator, Bool.or_eq_false_iff] at hsep
  exact hsep.2

theorem isTokenChar_of_isSpace {c : Char} (h : isSpace c = true) : isTokenChar c = false := by
  by_contra hne
  have hspace := isSpace_of_isTokenChar (c := c) (by simpa using hne)
  simp [h] at hspace

theorem isToken68Char_plain {c : Char} (h : isToken68Char c = true) :
    c ≠ '"' ∧ isSeparator c = false := by
  constructor
  · rintro rfl
    revert h
    decide
  · rcases hsep : isSeparator c with _ | _
    · rfl
    · simp only [isSeparator, isSpace, Bool.or_eq_true, beq_iff_eq] at hsep
      rcases hsep with rfl | rfl | rfl <;> revert h <;> decide

/-! ### Items in a list

An item hides its commas in quotes and closes them, and it begins and ends visibly. -/

/-- No comma of the text stands outside quotes, and the text ends there. -/
structure Level (w : List Char) : Prop where
  whole : Whole (· == ',') .outside w
  closed : Mode.outside.behind w = .outside

theorem Level.append (hw : Level w) (ht : Level t) : Level (w ++ t) where
  whole := by
    have hrest : Whole (· == ',') (Mode.outside.behind w) t := by
      rw [hw.closed]
      exact ht.whole
    exact whole_append.2 ⟨hw.whole, hrest⟩
  closed := by simp [hw.closed, ht.closed]

theorem level_of_forall (h : ∀ c ∈ w, c ≠ '"' ∧ c ≠ ',') : Level w where
  whole := whole_of_forall fun c hc => by simpa using (h c hc).2
  closed := Mode.behind_unquoted fun c hc => (h c hc).1

theorem IsBlanks.level (h : IsBlanks w) : Level w :=
  level_of_forall fun c hc => ⟨ne_of_isSpace (h c hc) rfl, ne_of_isSpace (h c hc) rfl⟩

theorem IsPadding.level (h : IsPadding w) : Level w :=
  level_of_forall fun c hc => by
    rw [h c hc]
    decide

theorem IsToken.level (h : IsToken w) : Level w :=
  level_of_forall fun c hc => by
    have htoken := h.2 c hc
    exact ⟨ne_of_isTokenChar htoken (by decide), ne_of_isTokenChar htoken (by decide)⟩

theorem IsToken68.level (h : IsToken68 w) : Level w := by
  rcases h with ⟨_, hw, hp⟩
  refine Level.append (level_of_forall fun c hc => ?_) hp.level
  have hplain := isToken68Char_plain (hw c hc)
  refine ⟨hplain.1, ?_⟩
  rintro rfl
  exact absurd hplain.2 (by decide)

/-- All of a quoted string stands in quotes, and it closes them. -/
theorem Quotes.inside {v : List Char} (stop : Char → Bool) (h : Quotes w v) :
    Whole stop .quoted w ∧ Mode.quoted.behind w = .outside := by
  induction h with
  | closing => exact ⟨⟨nofun, trivial⟩, rfl⟩
  | hidden _ ih => exact ⟨⟨nofun, nofun, ih.1⟩, ih.2⟩
  | @plain c w v hquote hslash _ _ ih =>
      have hstay : Mode.quoted.next c = .quoted := by simp [Mode.next, hquote, hslash]
      refine ⟨⟨nofun, ?_⟩, ?_⟩
      · rw [hstay]
        exact ih.1
      · rw [Mode.behind_cons, hstay]
        exact ih.2

theorem Denotes.level {v : List Char} (h : Denotes w v) : Level w := by
  cases h with
  | quoted h => exact ⟨⟨fun _ => rfl, (h.inside _).1⟩, (h.inside (· == ',')).2⟩
  | bare hw hp => exact hw.level.append hp.level

theorem Assigns.level {n v : List Char} (h : Assigns w n v) : Level w := by
  rcases h with ⟨hname, hb, hb', hvalue⟩
  have hsign : Level ['='] := IsPadding.level fun c hc => List.mem_singleton.1 hc
  have hlevel := ((hname.level.append hb.level).append (hsign.append hb'.level)).append hvalue.level
  simpa using hlevel

/-- The last character of the text is visible. -/
def EndsVisibly (w : List Char) : Prop := ∃ u c, w = u ++ [c] ∧ isSpace c = false

theorem EndsVisibly.append (h : EndsVisibly t) : EndsVisibly (w ++ t) := by
  rcases h with ⟨u, c, rfl, hc⟩
  exact ⟨w ++ u, c, by simp, hc⟩

theorem EndsVisibly.ne_nil (h : EndsVisibly w) : w ≠ [] := by
  rcases h with ⟨u, c, rfl, _⟩
  simp

theorem EndsVisibly.of_append (h : EndsVisibly (w ++ t)) (ht : t ≠ []) : EndsVisibly t := by
  rcases h with ⟨u, c, hu, hc⟩
  rcases List.eq_nil_or_concat t with rfl | ⟨t', d, rfl⟩
  · exact absurd rfl ht
  · have hends : (w ++ t') ++ [d] = u ++ [c] := by simpa using hu
    have hlast : d = c := by simpa using (List.append_inj' hends rfl).2
    exact ⟨t', d, by simp, hlast ▸ hc⟩

theorem EndsVisibly.nil_or (h : EndsVisibly (w ++ t)) : t = [] ∨ EndsVisibly t := by
  by_cases ht : t = []
  · exact .inl ht
  · exact .inr (h.of_append ht)

theorem endsVisibly_of_forall (hne : w ≠ []) (h : ∀ c ∈ w, isSpace c = false) : EndsVisibly w := by
  rcases List.eq_nil_or_concat w with rfl | ⟨u, c, rfl⟩
  · exact absurd rfl hne
  · exact ⟨u, c, by simp, h c (by simp)⟩

theorem IsPadding.visible (h : IsPadding w) : ∀ c ∈ w, isSpace c = false := by
  intro c hc
  rw [h c hc]
  decide

theorem IsToken.endsVisibly (h : IsToken w) : EndsVisibly w :=
  endsVisibly_of_forall h.1 fun c hc => isSpace_of_isTokenChar (h.2 c hc)

theorem IsToken68.endsVisibly (h : IsToken68 w) : EndsVisibly w := by
  rcases h with ⟨hne, hw, hp⟩
  refine endsVisibly_of_forall (by simp [hne]) fun c hc => ?_
  rcases List.mem_append.1 hc with hc | hc
  · have hsep := (isToken68Char_plain (hw c hc)).2
    simp only [isSeparator, Bool.or_eq_false_iff] at hsep
    exact hsep.2
  · exact hp.visible c hc

theorem Quotes.endsVisibly {v : List Char} (h : Quotes w v) : EndsVisibly w := by
  induction h with
  | closing => exact ⟨[], '"', rfl, rfl⟩
  | @hidden c w v _ ih => exact ih.append (w := ['\\', c])
  | @plain c w v _ _ _ _ ih => exact ih.append (w := [c])

theorem Denotes.endsVisibly {v : List Char} (h : Denotes w v) : EndsVisibly w := by
  cases h with
  | @quoted w v h => exact h.endsVisibly.append (w := ['"'])
  | bare hw hp =>
      refine endsVisibly_of_forall (by simp [hw.1]) fun c hc => ?_
      rcases List.mem_append.1 hc with hc | hc
      · exact isSpace_of_isTokenChar (hw.2 c hc)
      · exact hp.visible c hc

theorem Assigns.endsVisibly {n v : List Char} (h : Assigns w n v) : EndsVisibly w := by
  rcases h with ⟨_, _, _, hvalue⟩
  exact hvalue.endsVisibly.append

/-- The first character of the text is neither a blank nor a comma. -/
def BeginsVisibly (w : List Char) : Prop := ∃ c u, w = c :: u ∧ isSeparator c = false

theorem BeginsVisibly.append (h : BeginsVisibly w) : BeginsVisibly (w ++ t) := by
  rcases h with ⟨c, u, rfl, hc⟩
  exact ⟨c, u ++ t, rfl, hc⟩

theorem IsToken.beginsVisibly (h : IsToken w) : BeginsVisibly w := by
  rcases h with ⟨hne, hw⟩
  cases w with
  | nil => exact absurd rfl hne
  | cons c w => exact ⟨c, w, rfl, isSeparator_eq_false (hw c (by simp))⟩

theorem IsToken68.beginsVisibly (h : IsToken68 w) : BeginsVisibly w := by
  rcases h with @⟨w, p, hne, hw, _⟩
  cases w with
  | nil => exact absurd rfl hne
  | cons c w => exact ⟨c, w ++ p, rfl, (isToken68Char_plain (hw c (by simp))).2⟩

theorem Assigns.beginsVisibly {n v : List Char} (h : Assigns w n v) : BeginsVisibly w := by
  rcases h with ⟨hname, _, _, _⟩
  exact hname.beginsVisibly.append.append.append

/-- A text that stands as one item in a list. -/
structure Solid (w : List Char) : Prop where
  level : Level w
  begins : BeginsVisibly w
  ends : EndsVisibly w

theorem IsToken.solid (h : IsToken w) : Solid w := ⟨h.level, h.beginsVisibly, h.endsVisibly⟩

theorem IsToken68.solid (h : IsToken68 w) : Solid w := ⟨h.level, h.beginsVisibly, h.endsVisibly⟩

theorem Assigns.solid {n v : List Char} (h : Assigns w n v) : Solid w :=
  ⟨h.level, h.beginsVisibly, h.endsVisibly⟩

/-! ## The scanners -/

/-- The text does not begin with a character of the class. -/
def Halts (p : Char → Bool) (r : List Char) : Prop := ∀ c ∈ r.head?, p c = false

variable {p : Char → Bool}

theorem Halts.nil : Halts p [] := by
  intro c hc
  cases hc

theorem halts_dropWhile (s : List Char) : Halts p (s.dropWhile p) := by
  intro c hc
  have hhead := List.head?_dropWhile_not p s
  rw [Option.mem_def.1 hc] at hhead
  simpa using hhead

theorem takeWhile_eq (hw : ∀ c ∈ w, p c = true) (hr : Halts p r) : (w ++ r).takeWhile p = w := by
  rw [List.takeWhile_append_of_pos hw]
  cases r with
  | nil => simp
  | cons c r =>
      have hc : p c = false := hr c (by simp)
      simp [hc]

theorem dropWhile_eq (hw : ∀ c ∈ w, p c = true) (hr : Halts p r) : (w ++ r).dropWhile p = r := by
  rw [List.dropWhile_append_of_pos hw]
  cases r with
  | nil => rfl
  | cons c r =>
      have hc : p c = false := hr c (by simp)
      simp [hc]

theorem token_eq_some :
    token s = some (w, r) ↔ s = w ++ r ∧ IsToken w ∧ Halts isTokenChar r := by
  constructor
  · intro h
    unfold token at h
    split at h
    · cases h
    · rename_i c cs hs
      simp only [Option.some.injEq, Prod.mk.injEq] at h
      rcases h with ⟨rfl, rfl⟩
      rw [← hs]
      refine ⟨List.takeWhile_append_dropWhile.symm, ⟨by simp [hs], ?_⟩, halts_dropWhile s⟩
      intro d hd
      exact List.mem_takeWhile_imp hd
  · rintro ⟨rfl, ⟨hne, hw⟩, hr⟩
    unfold token
    rw [takeWhile_eq hw hr, dropWhile_eq hw hr]
    cases w with
    | nil => exact absurd rfl hne
    | cons c w => rfl

theorem skipBlanks_append (hw : IsBlanks w) (hr : Halts isSpace r) : skipBlanks (w ++ r) = r :=
  dropWhile_eq hw hr

theorem exists_blanks (s : List Char) :
    ∃ b, s = b ++ skipBlanks s ∧ IsBlanks b ∧ Halts isSpace (skipBlanks s) :=
  ⟨s.takeWhile isSpace, List.takeWhile_append_dropWhile.symm, fun _ hc => List.mem_takeWhile_imp hc,
    halts_dropWhile s⟩

theorem quotedRest_eq_some {v : List Char} :
    quotedRest s = some (v, r) ↔ ∃ w, s = w ++ r ∧ Quotes w v := by
  constructor
  · intro h
    fun_induction quotedRest s generalizing v r with
    | case1 => cases h
    | case2 => cases h
    | case3 c s ih =>
        rcases Option.map_eq_some_iff.1 h with ⟨⟨v', r'⟩, hp, he⟩
        cases he
        rcases ih hp with ⟨w, rfl, hw⟩
        exact ⟨'\\' :: c :: w, rfl, .hidden hw⟩
    | case4 s =>
        cases h
        exact ⟨['"'], rfl, .closing⟩
    | case5 c s h1 h2 h3 h4 ih =>
        rcases Option.map_eq_some_iff.1 h with ⟨⟨v', r'⟩, hp, he⟩
        cases he
        rcases ih hp with ⟨w, rfl, hw⟩
        refine ⟨c :: w, rfl, .plain h3 ?_ (by simpa using h4) hw⟩
        -- a backslash would have been taken with the character behind it
        rintro rfl
        cases hrest : w ++ r' with
        | nil => exact h1 rfl hrest
        | cons d t => exact h2 d t rfl hrest
    | case6 => cases h
  · rintro ⟨w, rfl, hw⟩
    induction hw with
    | closing => simp [quotedRest]
    | hidden _ ih => simp [quotedRest, ih]
    | @plain c w v hquote hslash hc _ ih =>
        have hplain : (decide (c = '\t') || !isControl c) = true := by simpa using hc
        rw [List.cons_append, quotedRest, if_neg hquote, if_pos hplain, ih, Option.map_some]
        · exact fun hback => absurd hback hslash
        · exact fun _ _ hback => absurd hback hslash

theorem Halts.append (hw : ∀ c ∈ w, p c = false) (hr : Halts p r) : Halts p (w ++ r) := by
  cases w with
  | nil => exact hr
  | cons c w =>
      intro d hd
      have hdc : c = d := by simpa using hd
      rw [← hdc]
      exact hw c (by simp)

theorem Halts.cons {c : Char} (h : p c = false) : Halts p (c :: r) := by
  intro d hd
  have hdc : c = d := by simpa using hd
  rw [← hdc]
  exact h

theorem IsPadding.halts (h : IsPadding w) (hr : Halts isTokenChar r) :
    Halts isTokenChar (w ++ r) :=
  .append (fun c hc => by rw [h c hc]; decide) hr

theorem paramValue_eq_some {v : List Char} (hr : Halts isTokenChar r) (hr' : Halts (· == '=') r) :
    paramValue s = some (v, r) ↔ ∃ w, s = w ++ r ∧ Denotes w v := by
  constructor
  · intro h
    unfold paramValue at h
    split at h
    · rename_i t
      rcases quotedRest_eq_some.1 h with ⟨w, rfl, hw⟩
      exact ⟨'"' :: w, rfl, .quoted hw⟩
    · rcases Option.map_eq_some_iff.1 h with ⟨⟨w, t⟩, ht, he⟩
      simp only [Prod.mk.injEq] at he
      rcases he with ⟨rfl, rfl⟩
      rcases token_eq_some.1 ht with ⟨rfl, hw, _⟩
      have hpad : IsPadding (t.takeWhile (· == '=')) := by
        intro c hc
        simpa using List.mem_takeWhile_imp hc
      refine ⟨_, ?_, .bare hw hpad⟩
      rw [List.append_assoc, List.takeWhile_append_dropWhile]
  · rintro ⟨w, rfl, hw⟩
    cases hw with
    | @quoted w v hw => exact quotedRest_eq_some.2 ⟨w, rfl, hw⟩
    | @bare w q hw hq =>
        have htoken : token (w ++ q ++ r) = some (w, q ++ r) :=
          token_eq_some.2 ⟨List.append_assoc .., hw, hq.halts hr⟩
        have hpad : ∀ c ∈ q, (c == '=') = true := fun c hc => by simpa using hq c hc
        have hpadded : paddedToken (w ++ q ++ r) = some (w ++ q, r) := by
          unfold paddedToken
          rw [htoken, Option.map_some, takeWhile_eq hpad hr', dropWhile_eq hpad hr']
        cases w with
        | nil => exact absurd rfl hw.1
        | cons c w =>
            have hc : c ≠ '"' := ne_of_isTokenChar (hw.2 c (by simp)) (by decide)
            unfold paramValue
            split
            · rename_i hquote
              have hcq : c = '"' := by simpa using congrArg List.head? hquote
              exact absurd hcq hc
            · exact hpadded

theorem Denotes.halts {v : List Char} (h : Denotes w v) : Halts isSpace (w ++ r) := by
  cases h with
  | quoted h => exact .cons rfl
  | @bare w p hw hp =>
      cases w with
      | nil => exact absurd rfl hw.1
      | cons c w => exact .cons (isSpace_of_isTokenChar (hw.2 c (by simp)))

variable {ds : List Char}

/-- What follows an item with delimiters is in no class of the item's characters. -/
theorem halts_of_atDelimiter (h : atDelimiter ds r = true)
    (hp : ∀ c, isSpace c = true ∨ c ∈ ds → p c = false) : Halts p r := by
  cases r with
  | nil => exact .nil
  | cons c r =>
      have hc : isSpace c = true ∨ c ∈ ds := by simpa [atDelimiter] using h
      exact .cons (hp c hc)

/-- What may follow a parameter is neither in its value nor padding. -/
def Delimits (ds : List Char) : Prop := ∀ c ∈ ds, isTokenChar c = false ∧ c ≠ '='

theorem delimits_comma : Delimits [','] := by
  intro c hc
  rw [List.mem_singleton.1 hc]
  decide

theorem Delimits.halts (hds : Delimits ds) (h : atDelimiter ds r = true) :
    Halts isTokenChar r ∧ Halts (· == '=') r := by
  constructor
  · refine halts_of_atDelimiter h fun c hc => ?_
    rcases hc with hspace | hmem
    · exact isTokenChar_of_isSpace hspace
    · exact (hds c hmem).1
  · refine halts_of_atDelimiter h fun c hc => ?_
    rcases hc with hspace | hmem
    · simpa using ne_of_isSpace hspace rfl
    · simpa using (hds c hmem).2

theorem param_eq_some {n v : List Char} (hds : Delimits ds) :
    param ds s = some ((n, v), r) ↔ ∃ w, s = w ++ r ∧ Assigns w n v ∧ atDelimiter ds r = true := by
  constructor
  · intro h
    unfold param at h
    split at h
    · cases h
    · rename_i name t ht
      split at h
      · rename_i u hu
        split at h
        · cases h
        · rename_i value q hq
          split at h
          · rename_i hend
            simp only [Option.some.injEq, Prod.mk.injEq] at h
            rcases h with ⟨⟨rfl, rfl⟩, rfl⟩
            rcases token_eq_some.1 ht with ⟨rfl, hname, _⟩
            rcases exists_blanks t with ⟨b, hb, hblank, _⟩
            rcases exists_blanks u with ⟨b', hb', hblank', _⟩
            have hhalts := hds.halts hend
            rcases (paramValue_eq_some hhalts.1 hhalts.2).1 hq with ⟨x, hx, hvalue⟩
            refine ⟨name ++ b ++ '=' :: b' ++ x, ?_, ⟨hname, hblank, hblank', hvalue⟩, hend⟩
            calc
              name ++ t = name ++ (b ++ '=' :: u) := by rw [← hu, ← hb]
              _ = name ++ (b ++ '=' :: (b' ++ (x ++ q))) := by rw [← hx, ← hb']
              _ = name ++ b ++ '=' :: b' ++ x ++ q := by simp
          · cases h
      · cases h
  · rintro ⟨w, rfl, ⟨hname, hb, hb', hvalue⟩, hend⟩
    rename_i b b' x
    have hhalts := hds.halts hend
    have hsign : Halts isTokenChar (b ++ '=' :: (b' ++ (x ++ r))) :=
      .append (fun c hc => isTokenChar_of_isSpace (hb c hc)) (.cons (by decide))
    have htoken : token (n ++ b ++ '=' :: b' ++ x ++ r) = some (n, b ++ '=' :: (b' ++ (x ++ r))) :=
      token_eq_some.2 ⟨by simp, hname, hsign⟩
    have hafter : skipBlanks (b ++ '=' :: (b' ++ (x ++ r))) = '=' :: (b' ++ (x ++ r)) :=
      skipBlanks_append hb (.cons rfl)
    have hbefore : skipBlanks (b' ++ (x ++ r)) = x ++ r := skipBlanks_append hb' hvalue.halts
    have hread : paramValue (x ++ r) = some (v, r) :=
      (paramValue_eq_some hhalts.1 hhalts.2).2 ⟨x, rfl, hvalue⟩
    unfold param
    rw [htoken]
    simp only [hafter, hbefore, hread, hend, if_true]

theorem token68_eq_some :
    token68 s = some r ↔ ∃ w, s = w ++ r ∧ IsToken68 w ∧ atDelimiter [','] r = true := by
  constructor
  · intro h
    unfold token68 at h
    split at h
    · cases h
    · rename_i c t
      split at h
      · rename_i hc
        simp only at h
        split at h
        · rename_i hend
          cases h
          refine ⟨(c :: t).takeWhile isToken68Char ++
            ((c :: t).dropWhile isToken68Char).takeWhile (· == '='), ?_, ⟨?_, ?_, ?_⟩, hend⟩
          · rw [List.append_assoc, List.takeWhile_append_dropWhile, List.takeWhile_append_dropWhile]
          · simp [hc]
          · exact fun d hd => List.mem_takeWhile_imp hd
          · intro d hd
            simpa using List.mem_takeWhile_imp hd
        · cases h
      · cases h
  · rintro ⟨w, rfl, ⟨hne, hw, hp⟩, hend⟩
    rename_i w q
    have hrun : Halts isToken68Char r := by
      refine halts_of_atDelimiter hend fun c hc => ?_
      have hsep : isSeparator c = true := by simpa [isSeparator, or_comm] using hc
      by_contra hne68
      simp [(isToken68Char_plain (by simpa using hne68)).2] at hsep
    have hpad : ∀ c ∈ q, (c == '=') = true := fun c hc => by simpa using hp c hc
    have hsigns : Halts isToken68Char (q ++ r) :=
      .append (fun c hc => by rw [hp c hc]; decide) hrun
    have hrest : ((w ++ q ++ r).dropWhile isToken68Char).dropWhile (· == '=') = r := by
      rw [List.append_assoc, dropWhile_eq hw hsigns, dropWhile_eq hpad (delimits_comma.halts hend).2]
    cases w with
    | nil => exact absurd rfl hne
    | cons c w =>
        have hc : isToken68Char c = true := hw c (by simp)
        have hrest' : ((c :: (w ++ (q ++ r))).dropWhile isToken68Char).dropWhile (· == '=') = r := by
          simpa using hrest
        simp only [token68, List.cons_append, List.append_assoc, hc, if_true, hrest', hend]

end Header
end Countersign
