import Countersign.Header.Grammar
import Countersign.Header.Parameters

/-!
# Links

A response relates its resource to others in `Link` headers (RFC 8288).  A target is kept as the
reference that was sent: relative references, international ones and any scheme are accepted,
and a target that no reference can be spoils its whole link.

* `Link` — a target with its parameters in the order of their first occurrence;
* `Link.parseAll` — the links of all values of a response, in server order;
* `Link.isReference` — the targets that are accepted;
* `Link.display` — the written form that parses back.
-/

namespace Countersign

open Text Header

structure Link where
  target : String
  parameters : Parameters := .empty
deriving DecidableEq, Repr, Inhabited

namespace Link

/-- The value of a parameter; names are compared exactly. -/
def parameter (l : Link) (name : String) : Option String := l.parameters.find? name

/-- Adds a parameter, unless one of that name is there. -/
def withParameter (l : Link) (name value : String) : Link :=
  { l with parameters := l.parameters.add name value }

/-- Whether the words of the `rel` parameter hold a relation, up to letter case. -/
def hasRelation (l : Link) (relation : String) : Bool :=
  match l.parameter "rel" with
  | none => false
  | some rels => (words rels).any fun r => sameLetters r relation

/-- Links are the same when their targets are equal and their parameters agree up to order. -/
def same (a b : Link) : Bool :=
  a.target == b.target && a.parameters.same b.parameters

/-! ## Targets -/

/-- A character that a reference may hold: unreserved and reserved ones, the percent sign, and
beyond ASCII all that are neither control characters nor blanks. -/
def isReferenceChar (c : Char) : Bool :=
  if isAscii c then
    isAlnum c || ['-', '.', '_', '~', ':', '/', '?', '#', '[', ']', '@', '!', '$', '&', '\'', '(',
      ')', '*', '+', ',', ';', '=', '%'].contains c
  else !isControl c && !isBlank c

/-- Every percent sign is followed by two hexadecimal digits. -/
def escapesComplete : List Char → Bool
  | '%' :: a :: b :: r => isHexDigit a && isHexDigit b && escapesComplete r
  -- a percent sign that gets here has fewer than two characters behind it
  | c :: r => c != '%' && escapesComplete r
  | [] => true

/-- A letter followed by letters, digits and the signs `+`, `-`, `.`. -/
def isSchemeName : List Char → Bool
  | [] => false
  | c :: r => isAlpha c && r.all fun d => isAlnum d || d == '+' || d == '-' || d == '.'

/-- A character that ends the part of a reference in which a scheme may stand. -/
def endsHead (c : Char) : Bool := c == '/' || c == '?' || c == '#'

/-- What stands before the first colon of the head, if there is one, is a scheme. -/
def schemeValid (t : List Char) : Bool :=
  let head := t.takeWhile fun c => !endsHead c
  if head.contains ':' then isSchemeName (head.takeWhile (· != ':')) else true

/-- A non-empty text with complete escapes and a valid scheme if there is one. -/
def isReference (t : List Char) : Bool := !t.isEmpty && escapesComplete t && schemeValid t

/-! ## Reading one link -/

/-- Characters at which a malformed link parameter ends. -/
def endsParameter (c : Char) : Bool := c == ';' || c == ','

set_option linter.unusedVariables false in
/-- The parameters after a target, up to the next comma outside quotes. Empty and malformed
parameters are skipped. -/
def parametersFrom (s : List Char) : Option (List (List Char × List Char) × List Char) :=
  match hs : skipBlanks s with
  | [] => some ([], [])
  | c :: r =>
    if c = ',' then some ([], c :: r)
    else if c = ';' then
      match hr : skipBlanks r with
      | [] => some ([], [])
      | d :: t =>
        if endsParameter d then parametersFrom (d :: t)
        else
          match hp : param [';', ','] (d :: t) with
          | some (p, rest) => (parametersFrom rest).map fun q => (p :: q.1, q.2)
          | none => parametersFrom (skipUntil endsParameter false (d :: t)).2
    else none
termination_by s.length
decreasing_by
  all_goals
    have hs' : (c :: r).length ≤ s.length := by
      rw [← hs]; exact skipBlanks_length s
    have hr' : (d :: t).length ≤ r.length := by
      rw [← hr]; exact skipBlanks_length r
    simp only [List.length_cons] at hs' hr' ⊢
  · omega
  · have := param_length hp
    simp only [List.length_cons] at this
    omega
  · have := skipFrom_length endsParameter false .outside (d :: t)
    simp only [List.length_cons] at this
    have h : (skipUntil endsParameter false (d :: t)).2 =
        (skipFrom endsParameter false .outside (d :: t)).2 := rfl
    rw [h]
    omega

/-- `<target>` with its parameters. -/
def linkElement (s : List Char) : Option ((List Char × List (List Char × List Char)) × List Char) :=
  match s with
  | '<' :: r =>
    match r.dropWhile isReferenceChar with
    | '>' :: rest =>
      let target := r.takeWhile isReferenceChar
      if isReference target then
        (parametersFrom rest).map fun q => ((target, q.1), q.2)
      else none
    | _ => none
  | _ => none

/-- A target with the first occurrence of each parameter. -/
def ofParts (target : List Char) (ps : List (List Char × List Char)) : Link :=
  ⟨String.ofList target, Parameters.ofChars ps⟩

/-- The link at the start of a text that begins with no separator, if it is well formed, and the
rest: that of the link, or that after the next comma outside quotes and angle brackets. -/
def element (s : List Char) : Option Link × List Char :=
  match linkElement s with
  | some ((target, ps), r) => (some (ofParts target ps), r)
  | none => (none, (skipUntil (· == ',') true s).2)

/-! ## Progress -/

theorem parametersFrom_length {s r : List Char} {ps : List (List Char × List Char)}
    (h : parametersFrom s = some (ps, r)) : r.length ≤ s.length := by
  induction hn : s.length using Nat.strongRecOn generalizing s r ps with
  | ind n ih =>
    have hs := skipBlanks_length s
    unfold parametersFrom at h
    split at h
    · -- the text ends
      simp only [Option.some.injEq, Prod.mk.injEq] at h
      simp [← h.2]
    · rename_i c t hc
      rw [hc] at hs
      simp only [List.length_cons] at hs
      split at h
      · -- a comma ends the link
        simp only [Option.some.injEq, Prod.mk.injEq] at h
        rw [← h.2, ← hn]; exact hs
      · split at h
        · have ht := skipBlanks_length t
          split at h
          · simp only [Option.some.injEq, Prod.mk.injEq] at h
            simp [← h.2]
          · rename_i d u hd
            rw [hd] at ht
            simp only [List.length_cons] at ht
            split at h
            · -- an empty parameter
              have := ih _ (by simp only [List.length_cons]; omega) h rfl
              simp only [List.length_cons] at this
              omega
            · split at h
              · -- a well-formed parameter
                rename_i p rest hp
                obtain ⟨⟨q, r'⟩, hq, he⟩ := Option.map_eq_some_iff.1 h
                simp only [Prod.mk.injEq] at he
                have h1 := param_length hp
                simp only [List.length_cons] at h1
                have h2 := ih rest.length (by omega) hq rfl
                rw [← he.2]; omega
              · -- a malformed parameter
                have h1 := skipFrom_length endsParameter false .outside (d :: u)
                have h3 : (skipUntil endsParameter false (d :: u)).2.length ≤
                    (d :: u).length := h1
                simp only [List.length_cons] at h3
                have h2 := ih _ (by omega) h rfl
                omega
        · cases h

theorem linkElement_length {s r : List Char} {q : List Char × List (List Char × List Char)}
    (h : linkElement s = some (q, r)) : r.length < s.length := by
  unfold linkElement at h
  split at h
  · rename_i t
    have hd := length_dropWhile_le isReferenceChar t
    split at h
    · rename_i rest hr
      rw [hr] at hd
      simp only at h
      split at h
      · obtain ⟨⟨ps, r'⟩, hp, he⟩ := Option.map_eq_some_iff.1 h
        simp only [Prod.mk.injEq] at he
        have h1 := parametersFrom_length hp
        simp only [List.length_cons] at hd ⊢
        rw [← he.2]; omega
      · cases h
    · cases h
  · cases h

/-- An element that begins with no separator leaves a strictly shorter rest. -/
theorem element_length {c : Char} {t : List Char} (hc : isSeparator c = false) :
    (element (c :: t)).2.length < (c :: t).length := by
  unfold element
  split
  · rename_i h; exact linkElement_length h
  · refine skipUntil_length ?_
    simp only [isSeparator, Bool.or_eq_false_iff] at hc
    exact hc.1

/-! ## Reading the list -/

set_option linter.unusedVariables false in
/-- The links of one value, in order. -/
def parseChars (s : List Char) : List Link :=
  match hs : skipSeparators s with
  | [] => []
  | c :: r => (element (c :: r)).1.toList ++ parseChars (element (c :: r)).2
termination_by s.length
decreasing_by
  obtain ⟨hc, hle⟩ := skipSeparators_cons hs
  exact Nat.lt_of_lt_of_le (element_length hc) hle

def parse (value : String) : List Link := parseChars value.toList

/-- The links of all values of a response, in server order. -/
def parseAll (values : List String) : List Link := values.flatMap parse

/-! ## Writing -/

/-- `<target>` and each parameter as `; name="value"`. -/
def displayChars (l : Link) : List Char :=
  '<' :: l.target.toList ++ '>' :: l.parameters.toList.flatMap fun p =>
    ';' :: ' ' :: p.1.toList ++ '=' :: quoted p.2.toList

/-- The written form of a link. -/
def display (l : Link) : String := String.ofList l.displayChars

end Link
end Countersign
