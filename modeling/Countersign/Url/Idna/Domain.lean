import Countersign.Text.Ascii
import Countersign.Text.Utf8
import Countersign.Url.Idna.Classes
import Countersign.Url.Idna.Composed
import Countersign.Url.Idna.Direction
import Countersign.Url.Idna.Mapped
import Countersign.Url.Punycode

/-!
# International domains

A domain is mapped to the usual form of its characters, characters and their marks are composed, and
each label that is still not in ASCII is written in the ASCII form.  A label that is in that form
already has to decode to what its mapping would leave as it is.  If some characters run to the left, no
label may be readable in two ways.

* `Idna.mapChar` — what a character becomes;
* `Idna.compose` — the composed form of a text;
* `Idna.runsOneWay` — whether a label can be read in one way only;
* `Idna.domainToAscii` — the ASCII form of a domain.
-/

namespace Countersign
namespace Idna

open Text

/-! ## Tables -/

/-- The characters of an item, and the numbers that it gives to the first of them. -/
structure Span where
  first : Nat
  last : Nat
  step : Nat := 1
  value : List Nat := []
deriving DecidableEq, Repr, Inhabited

namespace Span

/-- The number that hexadecimal digits write. -/
def number (s : String) : Nat := s.toList.foldl (fun n c => n * 16 + (hexValue? c).getD 0) 0

/-- Reads a range, perhaps with its step. -/
def ofRange (s : String) (value : List Nat) : Span :=
  let (range, step) := match s.splitOn "/" with
    | [range, step] => (range, number step)
    | _ => (s, 1)
  match range.splitOn "-" with
  | [first, last] => ⟨number first, number last, step, value⟩
  | _ => ⟨number range, number range, step, value⟩

def ofItem (s : String) : Span :=
  match s.splitOn ">" with
  | [range, value] => ofRange range ((value.splitOn ".").map number)
  | _ => ofRange s []

def ofTable (lines : List String) : List Span :=
  lines.flatMap fun l => (l.splitOn " ").map ofItem

/-- Whether a number belongs to the characters. -/
def contains (s : Span) (n : Nat) : Bool :=
  s.first ≤ n && n ≤ s.last && (n - s.first) % s.step == 0

end Span

/-- What takes the place of characters. -/
def mapped : List Span := Span.ofTable Table.mapped

/-- Characters that are left out. -/
def ignored : List Span := Span.ofTable Table.ignored

/-- Characters that no domain holds. -/
def refused : List Span := Span.ofTable Table.refused

/-- Characters that attach to the one before them. -/
def marks : List Span := Span.ofTable Table.marks

def classes : List Span := Span.ofTable Table.classes

/-- Pairs of characters with the character that they compose. -/
def composed : List ((Nat × Nat) × Nat) :=
  Table.composed.flatMap fun l => (l.splitOn " ").filterMap fun item =>
    match item.splitOn ">" with
    | [pair, c] =>
      match (pair.splitOn ".").map Span.number with
      | [a, b] => some ((a, b), Span.number c)
      | _ => none
    | _ => none

/-! ## Mapping -/

/-- What a character of a domain becomes: itself, other characters, or nothing; `none` if no
domain may hold it. -/
def mapChar (c : Char) : Option (List Char) :=
  let n := c.toNat
  if isAscii c then some [c.toLower]
  else
    match mapped.find? fun s => s.contains n with
    | some s =>
      match s.value with
      -- one number is given to the first of the characters, the others follow it
      | [t] => some [Char.ofNat (t + (n - s.first))]
      | ts => some (ts.map Char.ofNat)
    | none =>
      if ignored.any fun s => s.contains n then some []
      else if refused.any fun s => s.contains n then none
      else some [c]

/-! ## Composition -/

/-- The class of a mark; no other character has one. -/
def classOf (c : Char) : Nat :=
  ((classes.find? fun s => s.contains c.toNat).bind fun s => s.value.head?).getD 0

namespace Hangul

/-- The first of the syllables, and of the leading, middle and trailing sounds. -/
def syllable : Nat := 0xAC00

/-- The first leading sound. -/
def leading : Nat := 0x1100

/-- The first middle sound. -/
def middle : Nat := 0x1161

/-- The number before the first trailing sound. -/
def trailing : Nat := 0x11A7

/-- How many syllables begin with the same leading and middle sound. -/
def trailings : Nat := 28

/-- How many middle sounds there are. -/
def middles : Nat := 21

/-- How many leading sounds there are. -/
def leadings : Nat := 19

/-- How many syllables there are. -/
def syllables : Nat := leadings * middles * trailings

/-- The sounds of a syllable. -/
def parts? (n : Nat) : Option (List Nat) :=
  if syllable ≤ n && n < syllable + syllables then
    let i := n - syllable
    let front := [leading + i / (middles * trailings), middle + i % (middles * trailings) / trailings]
    some (if i % trailings == 0 then front else front ++ [trailing + i % trailings])
  else none

/-- The syllable that two sounds, or a syllable and a trailing sound, compose. -/
def compose? (a b : Nat) : Option Nat :=
  if leading ≤ a && a < leading + leadings && middle ≤ b && b < middle + middles then
    some (syllable + ((a - leading) * middles + (b - middle)) * trailings)
  else if syllable ≤ a && a < syllable + syllables && (a - syllable) % trailings == 0 &&
      trailing < b && b < trailing + trailings then
    some (a + (b - trailing))
  else none

end Hangul

/-- The characters that compose a character, or the character alone; composites of composites are at most
`depth` deep. -/
def decomposeChar : Nat → Nat → List Nat
  | 0, n => [n]
  | depth + 1, n =>
    match Hangul.parts? n with
    | some parts => parts
    | none =>
      match composed.find? fun e => e.2 == n with
      | some ((a, b), _) => decomposeChar depth a ++ [b]
      | none => [n]

/-- How deep composites are nested. -/
def maxDepth : Nat := 4

/-- Puts a mark before the marks of higher classes at the end of a text, which is given last character
first. -/
def insertMark (c : Char) : List Char → List Char
  | [] => [c]
  | d :: r => if classOf d > classOf c then d :: insertMark c r else c :: d :: r

/-- A text with the marks on each character in the order of their classes. -/
def orderMarks (cs : List Char) : List Char :=
  (cs.foldl (fun before c => if classOf c == 0 then c :: before else insertMark c before)
    []).reverse

/-- The character that two characters compose. -/
def compose? (a b : Char) : Option Char :=
  (match Hangul.compose? a.toNat b.toNat with
  | some n => some n
  | none => composed.lookup (a.toNat, b.toNat)).map Char.ofNat

/-- Composes a character with what follows it; `waiting` are the marks between, last first, none of which
could be composed. -/
def composeFrom (base : Char) (waiting : List Char) : List Char → List Char
  | [] => base :: waiting.reverse
  | c :: r =>
    let isNext := match waiting with
      | [] => true
      | m :: _ => classOf m < classOf c
    match (if isNext then compose? base c else none) with
    | some d => composeFrom d waiting r
    | none =>
      if classOf c == 0 then (base :: waiting.reverse) ++ composeFrom c [] r
      else composeFrom base (c :: waiting) r

/-- The composed form of a text. -/
def compose (cs : List Char) : List Char :=
  let parts := orderMarks (cs.flatMap fun c => (decomposeChar maxDepth c.toNat).map Char.ofNat)
  parts.takeWhile (fun c => classOf c != 0) ++
    match parts.dropWhile fun c => classOf c != 0 with
    | [] => []
    | c :: r => composeFrom c [] r

/-! ## Labels -/

/-- The class of marks that suppress a vowel; behind one a joiner may stand. -/
def suppressing : Nat := 9

/-- Whether each joiner stands behind a mark that suppresses a vowel. -/
def joinersFit : Option Char → List Char → Bool
  | _, [] => true
  | before, c :: r =>
    (if c.toNat == 0x200C || c.toNat == 0x200D then before.any fun b => classOf b == suppressing
      else true) && joinersFit (some c) r

/-- Whether a label that is not in ASCII may stand in a domain. -/
def isLabel (cs : List Char) : Bool :=
  (match cs with
  | [] => true
  | c :: _ => !marks.any fun s => s.contains c.toNat) && joinersFit none cs

/-- Whether mapping leaves a text as it is. -/
def isMapped (cs : List Char) : Bool :=
  cs.all (fun c => mapChar c == some [c]) && compose cs == cs

/-- The characters of one mapped label; a label that claims to be in the ASCII form has to decode. -/
def labelOf? (label : List Char) : Option (List Char) :=
  match label with
  | 'x' :: 'n' :: '-' :: '-' :: r =>
    if !label.all isAscii then none
    else match Punycode.decode? r with
      | some cs =>
        if r.isEmpty || cs.all isAscii || !isMapped cs || !isLabel cs then none else some cs
      | none => none
  | _ => if label.all isAscii || isLabel label then some label else none

def labelToAscii (label : List Char) : List Char :=
  if label.all isAscii then label else "xn--".toList ++ Punycode.encode label

/-! ## Direction -/

inductive Direction where
  | right
  | left
  | digit
  | arabicDigit
  | neutral
  | attached
deriving DecidableEq, Repr, Inhabited

/-- The characters of each direction but the usual one. -/
def directions : List (Direction × List Span) :=
  [(.left, Span.ofTable Table.leftward), (.digit, Span.ofTable Table.digits),
    (.arabicDigit, Span.ofTable Table.arabicDigits), (.neutral, Span.ofTable Table.neutral),
    (.attached, Span.ofTable Table.attached)]

def directionOf (c : Char) : Direction :=
  ((directions.find? fun d => d.2.any fun s => s.contains c.toNat).map Prod.fst).getD .right

/-- Whether a label can be read in one way only: it runs to one side from its first character on, and ends
in a character of that side or a digit. -/
def runsOneWay (label : List Char) : Bool :=
  match label.map directionOf with
  | [] => true
  | first :: rest =>
    -- marks at the end belong to the character before them
    let body := rest.reverse.dropWhile (· == .attached)
    match first, body with
    | .right, [] | .left, [] => true
    | .right, last :: _ =>
      (last == .right || last == .digit) && !body.contains .left && !body.contains .arabicDigit
    | .left, last :: _ =>
      (last == .left || last == .digit || last == .arabicDigit) && !body.contains .right &&
        !(body.contains .digit && body.contains .arabicDigit)
    | _, _ => false

/-- Whether a character makes the directions of a domain matter. -/
def isLeftward (c : Char) : Bool := directionOf c == .left || directionOf c == .arabicDigit

/-! ## Domains -/

def labels (cs : List Char) : List (List Char) :=
  cs.foldr (fun c parts =>
    if c == '.' then [] :: parts
    else match parts with
      | [] => [[c]]
      | p :: ps => (c :: p) :: ps) [[]]

/-- A domain in the usual form of its characters. -/
def map? (text : List Char) : Option (List Char) := do
  let cs := (← text.mapM mapChar).flatten
  return if cs.all isAscii then cs else compose cs

def domainToAscii (bytes : Bytes) : Option (List Char) := do
  let mapped ← map? (← Utf8.decode? bytes).toList
  let decoded ← (labels mapped).mapM labelOf?
  if (decoded.any fun l => l.any isLeftward) && !decoded.all runsOneWay then none
  else some (['.'].intercalate (decoded.map labelToAscii))

end Idna
end Countersign
