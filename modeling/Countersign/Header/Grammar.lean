import Countersign.Text.Blank

/-!
# The lexical rules of structured header values

A header value is scanned from the left.  Each scanner takes the remaining characters and returns
what it read together with the rest; `none` means that the text does not start with the item.

* `token`, `quotedString`, `token68`, `param`, `soleParam` — the items of RFC 9110 §5.6 and RFC 7235 §2.1;
* `skipSeparators`, `skipUntil` — the two ways past text that no item covers;
* `quoted` — the written form that `quotedString` reads back.

Every successful scanner leaves a strictly shorter rest, and `skipUntil` does so whenever the
first character is not one it stops at; the loops over header elements end by these facts.
-/

namespace Countersign
namespace Header

open Text

/-! ## Character classes -/

def isTokenChar (c : Char) : Bool :=
  isAlnum c || ['!', '#', '$', '%', '&', '\'', '*', '+', '-', '.', '^', '_', '\x60', '|', '~'].contains c

/-- A character of a token68 before its padding. -/
def isToken68Char (c : Char) : Bool :=
  isAlnum c || ['-', '.', '_', '~', '+', '/'].contains c

/-- The blanks of header values: space and tab. -/
def isSpace (c : Char) : Bool := c == ' ' || c == '\t'

/-- The separators between list elements. -/
def isSeparator (c : Char) : Bool := c == ',' || isSpace c

/-! ## Scanners -/

/-- The rest after optional blanks. -/
def skipBlanks (s : List Char) : List Char := s.dropWhile isSpace

def skipSeparators (s : List Char) : List Char := s.dropWhile isSeparator

/-- A non-empty run of token characters. -/
def token (s : List Char) : Option (List Char × List Char) :=
  match s.takeWhile isTokenChar with
  | [] => none
  | c :: cs => some (c :: cs, s.dropWhile isTokenChar)

/-- The text of a quoted string after its opening quote: a backslash hides the next character,
and a bare control character other than tab is an error. -/
def quotedRest : List Char → Option (List Char × List Char)
  | [] => none
  | ['\\'] => none
  | '\\' :: c :: r => (quotedRest r).map fun p => (c :: p.1, p.2)
  | c :: r =>
    if c = '"' then some ([], r)
    else if c = '\t' || !isControl c then (quotedRest r).map fun p => (c :: p.1, p.2)
    else none

/-- A quoted string, read without its quotes and escapes. -/
def quotedString : List Char → Option (List Char × List Char)
  | '"' :: r => quotedRest r
  | _ => none

/-- A character of the string that has to be escaped. -/
def needsEscape (c : Char) : Bool := c = '"' || c = '\\'

/-- A text with a backslash before every quote and backslash. -/
def escape (v : List Char) : List Char :=
  v.flatMap fun c => if needsEscape c then ['\\', c] else [c]

/-- The quoted form of a text. -/
def quoted (v : List Char) : List Char := '"' :: (escape v ++ ['"'])

/-- True at the end of the text, before a blank, and before one of the delimiters. -/
def atDelimiter (delimiters : List Char) : List Char → Bool
  | [] => true
  | c :: _ => isSpace c || delimiters.contains c

/-- The rest after a token68: its characters, any padding, and then a comma, a blank or the end. -/
def token68 (s : List Char) : Option (List Char) :=
  match s with
  | [] => none
  | c :: _ =>
    if isToken68Char c then
      let rest := (s.dropWhile isToken68Char).dropWhile (· == '=')
      if atDelimiter [','] rest then some rest else none
    else none

/-- A token with any padding of equals signs. -/
def paddedToken (s : List Char) : Option (List Char × List Char) :=
  (token s).map fun p => (p.1 ++ p.2.takeWhile (· == '='), p.2.dropWhile (· == '='))

/-- A parameter value: a quoted string, or a token with any padding. -/
def paramValue (s : List Char) : Option (List Char × List Char) :=
  match s with
  | '"' :: _ => quotedString s
  | _ => paddedToken s

/-- `name = value` with optional blanks around the sign, ended by a blank, one of the delimiters
or the end of the text. -/
def param (delimiters : List Char) (s : List Char) :
    Option ((List Char × List Char) × List Char) :=
  match token s with
  | none => none
  | some (name, r) =>
    match skipBlanks r with
    | '=' :: r =>
      match paramValue (skipBlanks r) with
      | none => none
      | some (value, r) => if atDelimiter delimiters r then some ((name, value), r) else none
    | _ => none

/-- A parameter that fills its whole element, up to the next comma or the end of the text. -/
def soleParam (s : List Char) : Option ((List Char × List Char) × List Char) :=
  match param [','] s with
  | none => none
  | some (p, r) =>
    match skipBlanks r with
    | [] => some (p, [])
    | c :: r => if c = ',' then some (p, c :: r) else none

/-! ## Skipping an element -/

/-- Where a skip stands: outside, in a quoted string, after a backslash in one, or in a
reference between angle brackets. -/
inductive Region where
  | outside
  | quotes
  | escaped
  | angles
deriving DecidableEq, Repr

/-- A character put in front of a skipped text. -/
def took (c : Char) (p : List Char × List Char) : List Char × List Char := (c :: p.1, p.2)

@[simp] theorem took_snd (c : Char) (p : List Char × List Char) : (took c p).2 = p.2 := rfl

@[simp] theorem took_fst (c : Char) (p : List Char × List Char) : (took c p).1 = c :: p.1 := rfl

/-- Splits a text before the first character outside quotes and angle brackets that `stop`
accepts. Angle brackets count only when `angles` is set. -/
def skipFrom (stop : Char → Bool) (angles : Bool) : Region → List Char → List Char × List Char
  | _, [] => ([], [])
  | .escaped, c :: r => took c (skipFrom stop angles .quotes r)
  | .quotes, c :: r =>
    took c (skipFrom stop angles
      (if c = '\\' then .escaped else if c = '"' then .outside else .quotes) r)
  | .angles, c :: r =>
    took c (skipFrom stop angles (if c = '>' then .outside else .angles) r)
  | .outside, c :: r =>
    if c = '"' then took c (skipFrom stop angles .quotes r)
    else if c = '<' ∧ angles = true then took c (skipFrom stop angles .angles r)
    else if stop c then ([], c :: r)
    else took c (skipFrom stop angles .outside r)

/-- The skipped text and the rest, from outside any quotes. -/
def skipUntil (stop : Char → Bool) (angles : Bool) (s : List Char) : List Char × List Char :=
  skipFrom stop angles .outside s

/-! ## Progress -/

theorem length_dropWhile_le (p : Char → Bool) (s : List Char) :
    (s.dropWhile p).length ≤ s.length := by
  induction s with
  | nil => simp
  | cons c r ih =>
    rw [List.dropWhile_cons]
    split
    · exact Nat.le_succ_of_le ih
    · exact Nat.le_refl _

theorem length_dropWhile_lt {p : Char → Bool} {c : Char} {r : List Char} (h : p c = true) :
    ((c :: r).dropWhile p).length < (c :: r).length := by
  rw [List.dropWhile_cons, if_pos h]
  exact Nat.lt_succ_of_le (length_dropWhile_le p r)

/-- The rest after the separators starts with none. -/
theorem skipSeparators_cons {s r : List Char} {c : Char} (h : skipSeparators s = c :: r) :
    isSeparator c = false ∧ (c :: r).length ≤ s.length := by
  have hs : s.dropWhile isSeparator = c :: r := h
  have hc := List.head?_dropWhile_not isSeparator s
  have hl := length_dropWhile_le isSeparator s
  rw [hs] at hc hl
  exact ⟨by simpa using hc, hl⟩

theorem isSeparator_eq_false {c : Char} (h : isTokenChar c = true) : isSeparator c = false := by
  rcases hsep : isSeparator c with _ | _
  · rfl
  · exfalso
    simp only [isSeparator, isSpace, Bool.or_eq_true, beq_iff_eq] at hsep
    -- each of the three separators is outside the class by evaluation
    rcases hsep with hc | hc | hc <;> subst hc <;> revert h <;> decide

/-- The rest after blanks is no longer than the text. -/
theorem skipBlanks_length (s : List Char) : (skipBlanks s).length ≤ s.length :=
  length_dropWhile_le isSpace s

theorem token_length {s t r : List Char} (h : token s = some (t, r)) : r.length < s.length := by
  unfold token at h
  split at h
  · cases h
  · rename_i c cs hs
    cases s with
    | nil => simp at hs
    | cons d s =>
      rw [List.takeWhile_cons] at hs
      split at hs
      · rename_i hd
        simp only [Option.some.injEq, Prod.mk.injEq] at h
        rw [← h.2]
        exact length_dropWhile_lt hd
      · cases hs

theorem quotedRest_length {s v r : List Char} (h : quotedRest s = some (v, r)) :
    r.length < s.length := by
  fun_induction quotedRest s generalizing v r with
  | case1 => cases h
  | case2 => cases h
  | case3 c s ih =>
    obtain ⟨⟨v', r'⟩, hp, he⟩ := Option.map_eq_some_iff.1 h
    simp only [Prod.mk.injEq] at he
    have := ih hp
    rw [← he.2]
    simp only [List.length_cons]
    omega
  | case4 s _ =>
    simp only [Option.some.injEq, Prod.mk.injEq] at h
    simp [← h.2]
  | case5 c s _ _ _ _ ih =>
    obtain ⟨⟨v', r'⟩, hp, he⟩ := Option.map_eq_some_iff.1 h
    simp only [Prod.mk.injEq] at he
    have := ih hp
    rw [← he.2]
    simp only [List.length_cons]
    omega
  | case6 => cases h

theorem paramValue_length {s v r : List Char} (h : paramValue s = some (v, r)) :
    r.length < s.length := by
  unfold paramValue at h
  split at h
  · rename_i t
    have := quotedRest_length (s := t) h
    simp only [List.length_cons]
    omega
  · unfold paddedToken at h
    obtain ⟨⟨t, r'⟩, hp, he⟩ := Option.map_eq_some_iff.1 h
    simp only [Prod.mk.injEq] at he
    have h1 := token_length hp
    have h2 := length_dropWhile_le (· == '=') r'
    rw [← he.2]
    omega

theorem param_length {delimiters s r : List Char} {p : List Char × List Char}
    (h : param delimiters s = some (p, r)) : r.length < s.length := by
  unfold param at h
  split at h
  · cases h
  · rename_i name t ht
    have h1 := token_length ht
    split at h
    · rename_i u hu
      have h2 := skipBlanks_length t
      have h2' : (skipBlanks t).length = u.length + 1 := by rw [hu]; rfl
      have h3 := skipBlanks_length u
      split at h
      · cases h
      · rename_i value w hw
        have h4 := paramValue_length hw
        split at h
        · simp only [Option.some.injEq, Prod.mk.injEq] at h
          rw [← h.2]
          omega
        · cases h
    · cases h

theorem soleParam_length {s r : List Char} {p : List Char × List Char}
    (h : soleParam s = some (p, r)) : r.length < s.length := by
  unfold soleParam at h
  split at h
  · cases h
  · rename_i p' t ht
    have h1 := param_length ht
    have h2 := skipBlanks_length t
    split at h
    · -- the parameter ends the text
      simp only [Option.some.injEq, Prod.mk.injEq] at h
      rw [← h.2]; simp only [List.length_nil]; omega
    · -- the parameter ends before a comma
      rename_i c u hu
      rw [hu] at h2
      split at h
      · simp only [Option.some.injEq, Prod.mk.injEq] at h
        rw [← h.2]; omega
      · cases h

theorem token68_length {s r : List Char} (h : token68 s = some r) : r.length < s.length := by
  unfold token68 at h
  split at h
  · cases h
  · rename_i c t
    split at h
    · rename_i hc
      have h1 : ((c :: t).dropWhile isToken68Char).length < (c :: t).length :=
        length_dropWhile_lt hc
      have h2 := length_dropWhile_le (· == '=') ((c :: t).dropWhile isToken68Char)
      simp only at h
      split at h
      · simp only [Option.some.injEq] at h
        rw [← h]
        omega
      · cases h
    · cases h

theorem skipFrom_length (stop : Char → Bool) (angles : Bool) (w : Region) (s : List Char) :
    (skipFrom stop angles w s).2.length ≤ s.length := by
  fun_induction skipFrom stop angles w s <;>
    simp only [took_snd, List.length_cons, List.length_nil] <;> omega

theorem skipUntil_length {stop : Char → Bool} {angles : Bool} {c : Char} {r : List Char}
    (h : stop c = false) : (skipUntil stop angles (c :: r)).2.length < (c :: r).length := by
  unfold skipUntil skipFrom
  simp only [h, Bool.false_eq_true, if_false, List.length_cons]
  have hq := skipFrom_length stop angles .quotes r
  have ha := skipFrom_length stop angles .angles r
  have ho := skipFrom_length stop angles .outside r
  split
  · simp only [took_snd]; omega
  · split <;> simp only [took_snd] <;> omega

end Header
end Countersign
