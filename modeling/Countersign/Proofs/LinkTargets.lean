import Countersign.Proofs.LinkWriting

/-!
# Link targets — which texts in angle brackets are links

What stands between the angle brackets of a link is taken as it is, or the link is dropped.  A scanner
takes the characters that may occur, and what it took is then checked for its escapes and its scheme.
Here the accepted texts are described without the scanner, by what a reference may look like:

* `Link.Unreserved`, `Link.Reserved`, `Link.International` — the characters of a reference;
* `Link.Acceptable` — the texts that may be a target;
* `Link.escapesComplete_iff`, `Link.schemeValid_iff` — what the two checks look for;
* `Link.target_acceptance` — a bracketed text is a link with this very text, or no link.
-/

namespace Countersign

open Text Header

namespace Link

variable {t u v : List Char} {c : Char}

/-! ## References -/

/-- ASCII letters and digits, and four signs. -/
def Unreserved (c : Char) : Prop := isAlnum c = true ∨ c ∈ ['-', '.', '_', '~']

/-- Signs between the parts of a reference, and signs within one part. -/
def Reserved (c : Char) : Prop :=
  c ∈ [':', '/', '?', '#', '[', ']', '@'] ∨
    c ∈ ['!', '$', '&', '\'', '(', ')', '*', '+', ',', ';', '=']

/-- Characters beyond ASCII that are neither control characters nor white space. -/
def International (c : Char) : Prop := 128 ≤ c.toNat ∧ isControl c = false ∧ isBlank c = false

/-- What a reference may look like. -/
structure Acceptable (t : List Char) : Prop where
  nonempty : t ≠ []
  chars : ∀ c ∈ t, Unreserved c ∨ Reserved c ∨ c = '%' ∨ International c
  /-- Two hexadecimal digits stand behind every percent sign. -/
  escapes : ∀ u v, t = u ++ '%' :: v →
    ∃ a b w, v = a :: b :: w ∧ isHexDigit a = true ∧ isHexDigit b = true
  /-- Before the first colon, if it comes before any slash, question mark and number sign, stands a
  letter with letters, digits and the signs of a scheme behind it. -/
  scheme : ∀ u v, t = u ++ ':' :: v → (∀ c ∈ u, c ∉ [':', '/', '?', '#']) →
    ∃ a s, u = a :: s ∧ isAlpha a = true ∧ ∀ c ∈ s, isAlnum c = true ∨ c ∈ ['+', '-', '.']

/-! ## Characters -/

theorem isAlnum_lt (h : isAlnum c = true) : c.toNat < 128 := by
  -- capital letters, small letters and digits, each between two characters
  have hranges : ((decide ('A'.val ≤ c.val ∧ c.val ≤ 'Z'.val) ||
      decide ('a'.val ≤ c.val) && decide (c.val ≤ 'z'.val)) ||
      decide ('0'.val ≤ c.val) && decide (c.val ≤ '9'.val)) = true := h
  simp only [Bool.or_eq_true, Bool.and_eq_true, decide_eq_true_eq, UInt32.le_iff_toNat_le] at hranges
  have hnat : c.toNat = c.val.toNat := rfl
  have hupper : 'Z'.val.toNat = 90 := rfl
  have hlower : 'z'.val.toNat = 122 := rfl
  have hdigit : '9'.val.toNat = 57 := rfl
  omega

/-- The signs of a reference, in the order in which the scanner lists them. -/
theorem mem_signs_iff : c ∈ ['-', '.', '_', '~', ':', '/', '?', '#', '[', ']', '@', '!', '$', '&',
      '\'', '(', ')', '*', '+', ',', ';', '=', '%'] ↔
    c ∈ ['-', '.', '_', '~'] ∨ Reserved c ∨ c = '%' := by
  have hlist : ['-', '.', '_', '~', ':', '/', '?', '#', '[', ']', '@', '!', '$', '&', '\'', '(', ')',
      '*', '+', ',', ';', '=', '%'] = ['-', '.', '_', '~'] ++ (([':', '/', '?', '#', '[', ']', '@'] ++
        ['!', '$', '&', '\'', '(', ')', '*', '+', ',', ';', '=']) ++ ['%']) := rfl
  rw [hlist]
  simp only [List.mem_append, List.mem_singleton, Reserved]

theorem isReferenceChar_iff :
    isReferenceChar c = true ↔ Unreserved c ∨ Reserved c ∨ c = '%' ∨ International c := by
  have hascii : isAscii c = true ↔ c.toNat < 128 := by
    simp [isAscii, UInt32.lt_iff_toNat_lt]
  by_cases hc : c.toNat < 128
  · -- the international characters are not in question
    have hnot : ¬ International c := fun h => absurd h.1 (by omega)
    rw [isReferenceChar, if_pos (hascii.2 hc), Bool.or_eq_true, List.contains_iff_mem, mem_signs_iff,
      Unreserved]
    tauto
  · -- none of the other characters is beyond ASCII
    have hsigns : ¬ (c ∈ ['-', '.', '_', '~'] ∨ Reserved c ∨ c = '%') := by
      rw [← mem_signs_iff]
      intro h
      have hsmall : (['-', '.', '_', '~', ':', '/', '?', '#', '[', ']', '@', '!', '$', '&', '\'',
          '(', ')', '*', '+', ',', ';', '=', '%'].all fun d => decide (d.toNat < 128)) = true := by
        decide
      exact hc (of_decide_eq_true (List.all_eq_true.1 hsmall c h))
    have halnum : ¬ isAlnum c = true := fun h => hc (isAlnum_lt h)
    have hbeyond : International c ↔ (!isControl c && !isBlank c) = true := by
      simp only [International, Bool.and_eq_true, Bool.not_eq_true']
      exact ⟨fun h => h.2, fun h => ⟨by omega, h⟩⟩
    rw [isReferenceChar, if_neg (fun h => hc (hascii.1 h)), ← hbeyond, Unreserved]
    tauto

/-! ## Escapes and schemes -/

theorem ne_percent_of_isHexDigit (h : isHexDigit c = true) : c ≠ '%' := by
  rintro rfl
  revert h
  decide

/-- The scan for escapes goes on behind each of them, and misses no percent sign by that. -/
theorem escapesComplete_iff : escapesComplete t = true ↔
    ∀ u v, t = u ++ '%' :: v →
      ∃ a b w, v = a :: b :: w ∧ isHexDigit a = true ∧ isHexDigit b = true := by
  fun_induction escapesComplete t with
  | case1 a b r ih =>
      constructor
      · intro h u v hsplit
        simp only [Bool.and_eq_true] at h
        -- the sign is the first one, or it stands behind the digits
        match u, hsplit with
        | [], hsplit =>
            cases hsplit
            exact ⟨a, b, r, rfl, h.1.1, h.1.2⟩
        | [_], hsplit =>
            cases hsplit
            exact absurd rfl (ne_percent_of_isHexDigit h.1.1)
        | [_, _], hsplit =>
            cases hsplit
            exact absurd rfl (ne_percent_of_isHexDigit h.1.2)
        | _ :: _ :: _ :: u, hsplit =>
            cases hsplit
            exact ih.1 h.2 u v rfl
      · intro h
        rcases h [] _ rfl with ⟨a', b', w, hdigits, ha, hb⟩
        cases hdigits
        simp only [Bool.and_eq_true]
        refine ⟨⟨ha, hb⟩, ih.2 ?_⟩
        rintro u v rfl
        exact h ('%' :: a :: b :: u) v rfl
  | case2 c r hshort ih =>
      constructor
      · intro h u v hsplit
        simp only [Bool.and_eq_true, bne_iff_ne] at h
        cases u with
        | nil =>
            cases hsplit
            exact absurd rfl h.1
        | cons d u =>
            cases hsplit
            exact ih.1 h.2 u v rfl
      · intro h
        simp only [Bool.and_eq_true, bne_iff_ne]
        refine ⟨?_, ih.2 ?_⟩
        · rintro rfl
          -- a percent sign with two characters behind it would be the first case
          rcases h [] r rfl with ⟨a, b, w, rfl, _, _⟩
          exact hshort a b w rfl rfl
        · rintro u v rfl
          exact h (c :: u) v rfl
  | case3 =>
      constructor
      · intro _ u v hsplit
        cases u <;> cases hsplit
      · intro _
        rfl

/-- The first colon of a text, if nothing before it ends the head. -/
theorem schemeValid_append (hu : ∀ c ∈ u, c ∉ [':', '/', '?', '#']) :
    schemeValid (u ++ ':' :: v) = isSchemeName u := by
  have hends : ∀ c ∈ u, (!endsHead c) = true := by
    intro c hc
    have hnot := hu c hc
    simp only [List.mem_cons, not_or] at hnot
    simp [endsHead, hnot]
  have hcolon : ∀ c ∈ u, (c != ':') = true := by
    intro c hc
    have hnot := hu c hc
    simp only [List.mem_cons, not_or] at hnot
    simpa using hnot.1
  have hhead : (u ++ ':' :: v).takeWhile (fun c => !endsHead c) =
      u ++ ':' :: v.takeWhile fun c => !endsHead c := by
    rw [List.takeWhile_append_of_pos hends]
    rfl
  have hfront : (u ++ ':' :: v.takeWhile fun c => !endsHead c).takeWhile (· != ':') = u :=
    takeWhile_eq hcolon (.cons rfl)
  simp [schemeValid, hhead, hfront]

theorem schemeValid_iff : schemeValid t = true ↔
    ∀ u v, t = u ++ ':' :: v → (∀ c ∈ u, c ∉ [':', '/', '?', '#']) → isSchemeName u = true := by
  constructor
  · rintro h u v rfl hu
    rwa [schemeValid_append hu] at h
  · intro h
    by_cases hcolon : ':' ∈ t.takeWhile fun c => !endsHead c
    · -- the head up to its first colon is what the condition speaks of
      rcases List.eq_append_cons_of_mem hcolon with ⟨x, y, hhead, hx⟩
      have hfree : ∀ c ∈ x, c ∉ [':', '/', '?', '#'] := by
        intro c hc
        have hmem : c ∈ t.takeWhile fun c => !endsHead c := by simp [hhead, hc]
        have hgo : (!endsHead c) = true := (List.all_eq_true.1 List.all_takeWhile) c hmem
        have hne : c ≠ ':' := fun heq => hx (heq ▸ hc)
        simpa [endsHead, hne, and_assoc] using hgo
      have ht : t = x ++ ':' :: (y ++ t.dropWhile fun c => !endsHead c) := by
        calc
          t = t.takeWhile (fun c => !endsHead c) ++ t.dropWhile fun c => !endsHead c :=
            List.takeWhile_append_dropWhile.symm
          _ = x ++ ':' :: (y ++ t.dropWhile fun c => !endsHead c) := by rw [hhead]; simp
      rw [ht, schemeValid_append hfree]
      exact h x _ ht hfree
    · simp [schemeValid, hcolon]

theorem isSchemeName_iff : isSchemeName u = true ↔
    ∃ a s, u = a :: s ∧ isAlpha a = true ∧ ∀ c ∈ s, isAlnum c = true ∨ c ∈ ['+', '-', '.'] := by
  cases u with
  | nil => simp [isSchemeName]
  | cons a s => simp [isSchemeName, or_assoc]

/-- The scanner takes all of a text, and its checks pass, exactly if the text may be a target. -/
theorem acceptable_iff :
    Acceptable t ↔ (∀ c ∈ t, isReferenceChar c = true) ∧ isReference t = true := by
  have hscheme : schemeValid t = true ↔ ∀ u v, t = u ++ ':' :: v → (∀ c ∈ u, c ∉ [':', '/', '?', '#']) →
      ∃ a s, u = a :: s ∧ isAlpha a = true ∧ ∀ c ∈ s, isAlnum c = true ∨ c ∈ ['+', '-', '.'] := by
    simp only [schemeValid_iff, isSchemeName_iff]
  constructor
  · intro h
    refine ⟨fun c hc => isReferenceChar_iff.2 (h.chars c hc), ?_⟩
    simp [isReference, h.nonempty, escapesComplete_iff.2 h.escapes, hscheme.2 h.scheme]
  · rintro ⟨hchars, href⟩
    simp only [isReference, Bool.and_eq_true, Bool.not_eq_true', List.isEmpty_eq_false_iff] at href
    exact ⟨href.1.1, fun c hc => isReferenceChar_iff.1 (hchars c hc),
      escapesComplete_iff.1 href.1.2, hscheme.1 href.2⟩

instance (t : List Char) : Decidable (Acceptable t) :=
  decidable_of_iff (t.all isReferenceChar = true ∧ isReference t = true)
    (by rw [List.all_eq_true, acceptable_iff])

/-! ## Bracketed texts -/

/-- The value that holds a text in angle brackets. -/
def bracketed (t : String) : String := "<" ++ t ++ ">"

/-- Nothing in a bracketed text but its last character ends the brackets. -/
theorem closed_bracketed (h : '>' ∉ t) : Closed .outside ('<' :: (t ++ ['>'])) := by
  have hangles : Closed .angles (t ++ ['>']) := by
    induction t with
    | nil => exact ⟨fun h => (by cases h), rfl⟩
    | cons c t ih =>
        have hc : c ≠ '>' := fun heq => h (by simp [heq])
        have hstay : Region.angles.next c = .angles := if_neg hc
        refine ⟨fun h => (by cases h), ?_⟩
        rw [hstay]
        exact ih fun hmem => h (.tail _ hmem)
  exact ⟨fun _ => by decide, hangles⟩

/-- A bracketed text that may be no target is no link. -/
theorem linkElement_bracketed (h : '>' ∉ t) (hnot : ¬ Acceptable t) :
    linkElement ('<' :: (t ++ ['>'])) = none := by
  cases hrest : t.dropWhile isReferenceChar with
  | nil =>
      -- the scanner takes the whole text, and a check fails
      have hall : ∀ c ∈ t, isReferenceChar c = true := List.dropWhile_eq_nil_iff.1 hrest
      have hclose : Halts isReferenceChar ['>'] := .cons (by decide)
      have href : ¬ isReference t = true := fun href => hnot (acceptable_iff.2 ⟨hall, href⟩)
      simp [linkElement, dropWhile_eq hall hclose, takeWhile_eq hall hclose, href]
  | cons d u =>
      -- the scanner stops in front of another character than the bracket
      have hd : d ≠ '>' := by
        rintro rfl
        exact h ((List.dropWhile_sublist isReferenceChar).mem (by rw [hrest]; simp))
      have hdrop : (t ++ ['>']).dropWhile isReferenceChar = d :: (u ++ ['>']) := by
        rw [List.dropWhile_append, hrest]
        rfl
      simp [linkElement, hdrop, hd]

theorem malformed_bracketed (h : '>' ∉ t) (hnot : ¬ Acceptable t) :
    Malformed ('<' :: (t ++ ['>'])) where
  begins := .cons rfl
  closed := closed_bracketed h
  spoiled := linkElement_bracketed h hnot

/-- An acceptable text is written as the target of a link without parameters. -/
theorem writable_bare {target : String} (h : Acceptable target.toList) :
    (⟨target, .empty⟩ : Link).Writable where
  target := (acceptable_iff.1 h).1
  reference := (acceptable_iff.1 h).2
  names := by simp [Parameters.empty]
  values := by simp [Parameters.empty]

/-- A bracketed text is read as a link to this very text, if that may be a target, and otherwise as no
link at all. -/
theorem target_acceptance (t : String) (hopen : '>' ∉ t.toList) :
    (Acceptable t.toList → parseAll [bracketed t] = [⟨t, .empty⟩]) ∧
      (¬ Acceptable t.toList → parseAll [bracketed t] = []) := by
  have hone : parseAll [bracketed t] = parse (bracketed t) := by simp [parseAll]
  rw [hone]
  constructor
  · intro h
    have hvalue : bracketed t = headerValue [⟨[], .link ⟨t, .empty⟩, []⟩] := by
      apply String.toList_injective
      simp [bracketed, headerValue, Placed.chars, Element.chars, displayChars, Parameters.empty]
    have hplaced : ∀ p ∈ [(⟨[], .link ⟨t, .empty⟩, []⟩ : Placed)], p.Admissible := by
      intro p hp
      rw [List.mem_singleton.1 hp]
      exact ⟨isBlanks_nil, writable_bare h, isBlanks_nil⟩
    rw [hvalue, parse_headerValue hplaced]
    rfl
  · intro hnot
    have hvalue : bracketed t = headerValue [⟨[], .malformed ('<' :: (t.toList ++ ['>'])), []⟩] := by
      apply String.toList_injective
      simp [bracketed, headerValue, Placed.chars, Element.chars]
    have hplaced : ∀ p ∈ [(⟨[], .malformed ('<' :: (t.toList ++ ['>'])), []⟩ : Placed)],
        p.Admissible := by
      intro p hp
      rw [List.mem_singleton.1 hp]
      exact ⟨isBlanks_nil, malformed_bracketed hopen hnot, isBlanks_nil⟩
    rw [hvalue, parse_headerValue hplaced]
    rfl

/-- A target with the signs of a list in it, and one with a scheme that begins with a digit. -/
theorem target_acceptance_listed :
    ('>' ∉ "did:web:a,b;c%2F苗?d".toList ∧ Acceptable "did:web:a,b;c%2F苗?d".toList ∧
        parseAll ["<did:web:a,b;c%2F苗?d>"] = [⟨"did:web:a,b;c%2F苗?d", .empty⟩]) ∧
      '>' ∉ "1did:web".toList ∧ ¬ Acceptable "1did:web".toList ∧ parseAll ["<1did:web>"] = [] := by
  have hlisted : '>' ∉ "did:web:a,b;c%2F苗?d".toList := by decide +kernel
  have hacceptable : Acceptable "did:web:a,b;c%2F苗?d".toList := by decide +kernel
  have hdigit : '>' ∉ "1did:web".toList := by decide +kernel
  have hspoiled : ¬ Acceptable "1did:web".toList := by decide +kernel
  exact ⟨⟨hlisted, hacceptable, (target_acceptance _ hlisted).1 hacceptable⟩, hdigit, hspoiled,
    (target_acceptance _ hdigit).2 hspoiled⟩

end Link
end Countersign
