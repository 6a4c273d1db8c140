import Countersign.Header.Grammar
import Countersign.Header.Parameters

/-!
# Challenges

A server that refuses a request names the schemes it would accept in `WWW-Authenticate`
(RFC 7235).  The reading is tolerant: a bare token68 may follow the scheme, parameters may be
separated by blanks or by commas, and a malformed element costs only itself.

* `Challenge` — a scheme with its parameters in the order of their first occurrence;
* `Challenge.parseAll` — the challenges of all values of a response, in server order;
* `Challenge.display` — the written form that parses back;
* `Element` — what one comma-separated element of the list says on its own.
-/

namespace Countersign

open Text Header

/-- One authentication scheme offered by a server. -/
structure Challenge where
  scheme : String
  parameters : Parameters := .empty
deriving DecidableEq, Repr, Inhabited

namespace Challenge

/-- The value of a parameter; names are compared exactly. -/
def parameter (c : Challenge) (name : String) : Option String := c.parameters.find? name

/-- Whether the scheme is the given one up to letter case. -/
def isScheme (c : Challenge) (scheme : String) : Bool := sameLetters c.scheme scheme

/-- Adds a parameter, unless one of that name is there. -/
def withParameter (c : Challenge) (name value : String) : Challenge :=
  { c with parameters := c.parameters.add name value }

/-- Challenges are the same when their schemes agree up to letter case and their parameters
agree up to order. -/
def same (a b : Challenge) : Bool :=
  sameLetters a.scheme b.scheme && a.parameters.same b.parameters

/-- A hash key on which `same` challenges agree. -/
def hashKey (c : Challenge) : String × Nat := (lower c.scheme, c.parameters.size)

/-! ## Reading one element -/

/-- One element of the list, read on its own text. A malformed element that still begins like a
challenge ends the open challenge. -/
inductive Element where
  | parameter (name value : List Char)
  | challenge (scheme : List Char) (parameters : List (List Char × List Char))
  | malformed (endsOpen : Bool)
deriving DecidableEq, Repr

set_option linter.unusedVariables false in
/-- The items after a scheme, up to the next comma outside quotes: each is preceded by blanks
and is a parameter, a token68, or other text that starts with a token character. -/
def items (s : List Char) : Option (List (List Char × List Char) × List Char) :=
  match hr : skipBlanks s with
  | [] => some ([], [])
  | c :: r =>
    if c = ',' then some ([], c :: r)
    else if s.length ≤ (c :: r).length then none  -- no blank stands before the item
    else
      match hp : param [','] (c :: r) with
      | some (p, rest) => (items rest).map fun q => (p :: q.1, q.2)
      | none =>
        match ht : token68 (c :: r) with
        | some rest => items rest
        | none =>
          if hc : isTokenChar c = true then items (skipUntil isSeparator false (c :: r)).2
          else none
termination_by s.length
decreasing_by
  all_goals
    have hs : (c :: r).length ≤ s.length := by
      rw [← hr]; exact skipBlanks_length s
  · exact Nat.lt_of_lt_of_le (param_length hp) hs
  · exact Nat.lt_of_lt_of_le (token68_length ht) hs
  · exact Nat.lt_of_lt_of_le (skipUntil_length (isSeparator_eq_false hc)) hs

/-- A scheme with its items. -/
def challengeElement (s : List Char) :
    Option ((List Char × List (List Char × List Char)) × List Char) :=
  match token s with
  | none => none
  | some (scheme, r) => (items r).map fun q => ((scheme, q.1), q.2)

/-- Text that begins with a token and a blank. -/
def beginsLikeChallenge (s : List Char) : Bool :=
  match token s with
  | some (_, c :: _) => isSpace c
  | _ => false

/-- The element at the start of a text that begins with no separator, and the rest. -/
def element (s : List Char) : Element × List Char :=
  match soleParam s with
  | some ((name, value), r) => (.parameter name value, r)
  | none =>
    match challengeElement s with
    | some ((scheme, ps), r) => (.challenge scheme ps, r)
    | none => (.malformed (beginsLikeChallenge s), (skipUntil (· == ',') false s).2)

/-! ## Progress -/

theorem items_length {s r : List Char} {ps : List (List Char × List Char)}
    (h : items s = some (ps, r)) : r.length ≤ s.length := by
  induction hn : s.length using Nat.strongRecOn generalizing s r ps with
  | ind n ih =>
    have hs := skipBlanks_length s
    unfold items at h
    split at h
    · -- the text ends
      simp only [Option.some.injEq, Prod.mk.injEq] at h
      simp [← h.2]
    · rename_i c t hr
      rw [hr] at hs
      split at h
      · -- a comma ends the items
        simp only [Option.some.injEq, Prod.mk.injEq] at h
        rw [← h.2, ← hn]; exact hs
      · split at h
        · cases h
        · split at h
          · -- a parameter
            rename_i p rest hp
            obtain ⟨⟨q, r'⟩, hq, he⟩ := Option.map_eq_some_iff.1 h
            simp only [Prod.mk.injEq] at he
            have h1 := param_length hp
            have h2 := ih rest.length (by omega) hq rfl
            rw [← he.2]; omega
          · split at h
            · -- a token68
              rename_i rest ht
              have h1 := token68_length ht
              have h2 := ih rest.length (by omega) h rfl
              omega
            · split at h
              · -- other text that starts with a token character
                rename_i hc
                have h1 : (skipUntil isSeparator false (c :: t)).2.length < (c :: t).length :=
                  skipUntil_length (isSeparator_eq_false hc)
                have h2 := ih _ (by omega) h rfl
                omega
              · cases h

theorem challengeElement_length {s r : List Char} {q : List Char × List (List Char × List Char)}
    (h : challengeElement s = some (q, r)) : r.length < s.length := by
  unfold challengeElement at h
  split at h
  · cases h
  · rename_i scheme t ht
    obtain ⟨⟨ps, r'⟩, hp, he⟩ := Option.map_eq_some_iff.1 h
    simp only [Prod.mk.injEq] at he
    have h1 := token_length ht
    have h2 := items_length hp
    rw [← he.2]; omega

/-- An element that begins with no separator leaves a strictly shorter rest. -/
theorem element_length {c : Char} {t : List Char} (hc : isSeparator c = false) :
    (element (c :: t)).2.length < (c :: t).length := by
  unfold element
  split
  · rename_i h; exact soleParam_length h
  · split
    · rename_i h; exact challengeElement_length h
    · refine skipUntil_length ?_
      simp only [isSeparator, Bool.or_eq_false_iff] at hc
      exact hc.1

/-! ## Reading the list -/

set_option linter.unusedVariables false in
/-- All elements of a text, in order. -/
def elements (s : List Char) : List Element :=
  match hs : skipSeparators s with
  | [] => []
  | c :: r => (element (c :: r)).1 :: elements (element (c :: r)).2
termination_by s.length
decreasing_by
  obtain ⟨hc, hle⟩ := skipSeparators_cons hs
  exact Nat.lt_of_lt_of_le (element_length hc) hle

/-- A challenge with the first occurrence of each parameter. -/
def ofItems (scheme : List Char) (ps : List (List Char × List Char)) : Challenge :=
  ⟨String.ofList scheme, Parameters.ofChars ps⟩

/-- The challenges that a list of elements spells, given the open challenge. A parameter without
an open challenge is dropped. -/
def assemble : Option Challenge → List Element → List Challenge
  | current, [] => current.toList
  -- nobody can say which challenge the parameter was meant for
  | none, .parameter _ _ :: es => assemble none es
  | some c, .parameter name value :: es =>
    assemble (some (c.withParameter (String.ofList name) (String.ofList value))) es
  | current, .challenge scheme ps :: es =>
    current.toList ++ assemble (some (ofItems scheme ps)) es
  | current, .malformed false :: es => assemble current es
  -- what follows a challenge that cannot be read must not go to the one before it
  | current, .malformed true :: es => current.toList ++ assemble none es

/-- The trimmed non-empty values, joined as one comma-separated list. -/
def joined (values : List String) : List Char :=
  [',', ' '].intercalate ((values.map fun v => trimChars v.toList).filter (!·.isEmpty))

/-- The challenges of all values of a response, in server order. -/
def parseAll (values : List String) : List Challenge := assemble none (elements (joined values))

/-- Without a value there is no challenge. -/
theorem parseAll_nil : parseAll [] = [] := by
  unfold parseAll elements
  rfl

def parse (value : String) : List Challenge := parseAll [value]

/-! ## Writing -/

/-- `name="value"` with quotes and backslashes escaped. -/
def displayParameter (p : String × String) : List Char :=
  p.1.toList ++ '=' :: quoted p.2.toList

/-- The scheme, a blank, and the parameters separated by commas. -/
def displayChars (c : Challenge) : List Char :=
  match c.parameters.toList with
  | [] => c.scheme.toList
  | p :: ps =>
    c.scheme.toList ++ ' ' :: displayParameter p
      ++ ps.flatMap fun q => ',' :: ' ' :: displayParameter q

/-- The written form of a challenge. -/
def display (c : Challenge) : String := String.ofList c.displayChars

end Challenge
end Countersign
