import Countersign.Toml.Scalar
import Countersign.Toml.Tree

/-!
# Reading TOML

A document is a sequence of lines: the header of a table, or a key with its value.  Inside brackets and
braces a line may end anywhere between two items, and a comma may follow the last item.

* `Toml.quotedText?`, `Toml.key?`, `Toml.value` — the parts of a line;
* `Toml.lines?` — the lines of a document;
* `Toml.parse?` — the table that a document describes.
-/

namespace Countersign
namespace Toml

open Text

/-! ## Gaps -/

/-- A blank inside a line. -/
def isBlank (c : Char) : Bool := c == ' ' || c == '\t'

/-- A character that may stand in comments and strings: no control other than tab. -/
def isPlain (c : Char) : Bool := c == '\t' || (' ' ≤ c && c != '\x7f')

/-- The rest after blanks. -/
def skipBlanks (cs : List Char) : List Char := cs.dropWhile isBlank

/-- The rest after blanks, line ends and comments; the flag says whether a comment has begun. -/
def skipGap? (comment : Bool) : List Char → Option (List Char)
  | [] => some []
  | '\n' :: r => skipGap? false r
  | '\r' :: '\n' :: r => skipGap? false r
  | c :: r =>
    if comment then if isPlain c then skipGap? true r else none
    else if c == '#' then skipGap? true r
    else if isBlank c then skipGap? false r
    else some (c :: r)

/-- The rest after the end of a line, before which there may be blanks and a comment. -/
def endLine? (comment : Bool) : List Char → Option (List Char)
  | [] => some []
  | '\n' :: r => some r
  | '\r' :: '\n' :: r => some r
  | c :: r =>
    if comment then if isPlain c then endLine? true r else none
    else if c == '#' then endLine? true r
    else if isBlank c then endLine? false r
    else none

/-! ## Strings -/

/-- The character with a number in hexadecimal digits. -/
def scalar? (ds : List Char) : Option Char :=
  if ds.all isHexDigit then
    let n := Scalar.valueOf 16 ds
    if n < 0xD800 || (0xDFFF < n && n < 0x110000) then some (Char.ofNat n) else none
  else none

/-- The character that a letter stands for behind a backslash. -/
def escape? : Char → Option Char
  | 'b' => some '\x08'
  | 't' => some '\t'
  | 'n' => some '\n'
  | 'f' => some '\x0c'
  | 'r' => some '\r'
  | 'e' => some '\x1b'
  | '"' => some '"'
  | '\\' => some '\\'
  | _ => none

/-- How many hexadecimal digits follow a letter behind a backslash. -/
def escapeDigits? : Char → Option Nat
  | 'x' => some 2
  | 'u' => some 4
  | 'U' => some 8
  | _ => none

/-- Where a string ends and what it may hold. -/
structure StringForm where
  quote : Char
  escapes : Bool
  /-- Whether it may hold line ends; it then ends with three quotes. -/
  manyLines : Bool

/-- The rest after blanks and line ends. -/
def skipLines : List Char → List Char
  | '\n' :: r => skipLines r
  | '\r' :: '\n' :: r => skipLines r
  | c :: r => if isBlank c then skipLines r else c :: r
  | [] => []

/-- The rest behind the line end that an escape in front of it takes away, with all blanks and line ends
that follow. -/
def joinedLines? (cs : List Char) : Option (List Char) :=
  match skipBlanks cs with
  | '\n' :: r => some (skipLines r)
  | '\r' :: '\n' :: r => some (skipLines r)
  | _ => none

/-- The characters of a string after its opening, and the rest after its closing. -/
def stringRest (f : StringForm) : Nat → List Char → Option (List Char × List Char)
  | 0, _ => none
  | _, [] => none
  | fuel + 1, c :: r =>
    let also (d : Char) (rest : List Char) : Option (List Char × List Char) :=
      (stringRest f fuel rest).map fun p => (d :: p.1, p.2)
    if c == f.quote then
      if f.manyLines then
        -- up to two quotes may stand in front of the three that end the string
        let run := (c :: r).takeWhile (· == f.quote)
        if run.length < 3 then also c r
        else
          let inside := min (run.length - 3) 2
          some (run.take inside, (c :: r).drop (inside + 3))
      else some ([], r)
    else if c == '\\' && f.escapes then
      -- a backslash at the end of a line takes the line end away
      match (if f.manyLines then joinedLines? r else none), r with
      | some rest, _ => stringRest f fuel rest
      | none, e :: t =>
        match escape? e, escapeDigits? e with
        | some d, _ => also d t
        | none, some n =>
          if t.length < n then none
          else
            match scalar? (t.take n) with
            | some d => also d (t.drop n)
            | none => none
        | none, none => none
      | none, [] => none
    else if f.manyLines && c == '\n' then also c r
    -- of a line end of two characters the second stays
    else if f.manyLines && c == '\r' && r.head? == some '\n' then stringRest f fuel r
    else if isPlain c then also c r
    else none

/-- A string after its opening, and the rest after its closing. -/
def stringOf (f : StringForm) (cs : List Char) : Option (String × List Char) :=
  (stringRest f (cs.length + 1) cs).map fun p => (String.ofList p.1, p.2)

/-- Without the line end that may follow the opening of a string of many lines. -/
def dropLineEnd : List Char → List Char
  | '\n' :: r => r
  | '\r' :: '\n' :: r => r
  | r => r

/-- Whether quoted text has escapes; `none` if the character is no quote. -/
def quoteKind? : Char → Option Bool
  | '"' => some true
  | '\'' => some false
  | _ => none

/-- A quoted text on one line, after its opening quote. -/
def lineText? (quote : Char) (escapes : Bool) (r : List Char) : Option (String × List Char) :=
  stringOf ⟨quote, escapes, false⟩ r

/-- A quoted text, on one line or on many, after its first quote. -/
def quotedText? (quote : Char) (escapes : Bool) (r : List Char) : Option (String × List Char) :=
  if [quote, quote].isPrefixOf r then stringOf ⟨quote, escapes, true⟩ (dropLineEnd (r.drop 2))
  else lineText? quote escapes r

/-! ## Keys -/

/-- A character of a bare key. -/
def isBare (c : Char) : Bool := isAlnum c || c == '-' || c == '_'

/-- One part of a key, bare or quoted. -/
def keyPart? (cs : List Char) : Option (String × List Char) :=
  match cs with
  | [] => none
  | c :: r =>
    match quoteKind? c with
    | some escapes => if [c, c].isPrefixOf r then none else lineText? c escapes r
    | none =>
      match cs.takeWhile isBare with
      | [] => none
      | part => some (String.ofList part, cs.dropWhile isBare)

/-- The parts of a key, with the blanks around them. -/
def keyParts? : Nat → List Char → Option (List String × List Char)
  | 0, _ => none
  | fuel + 1, cs => do
    let (part, r) ← keyPart? (skipBlanks cs)
    match skipBlanks r with
    | '.' :: t =>
      let (parts, t) ← keyParts? fuel t
      return (part :: parts, t)
    | t => return ([part], t)

/-- A key, with the blanks around it. -/
def key? (cs : List Char) : Option (Key × List Char) := do
  let (parts, r) ← keyParts? (cs.length + 1) cs
  return (← Key.ofParts? parts, r)

/-! ## Values -/

/-- How deep brackets and braces may be nested. -/
def maxDepth : Nat := 80

def endsWord (c : Char) : Bool :=
  ['=', ',', '[', ']', '\x7b', '\x7d', ' ', '\t', '#', '\r', '\n'].contains c

/-- A word, and the rest after it. A date takes the time behind one blank with it. -/
def word (cs : List Char) : List Char × List Char :=
  let first := cs.takeWhile fun c => !endsWord c
  match cs.dropWhile fun c => !endsWord c with
  | ' ' :: d :: r =>
    -- only behind a whole date does a digit continue the word
    if d.isDigit && ((Scalar.date? first).any fun p => p.2.isEmpty) then
      (first ++ ' ' :: (d :: r).takeWhile fun c => !endsWord c,
        (d :: r).dropWhile fun c => !endsWord c)
    else (first, ' ' :: d :: r)
  | rest => (first, rest)

mutual

/-- A value at the start of the characters; brackets and braces may be nested `depth` deep. -/
def value : Nat → Nat → List Char → Option (Toml × List Char)
  | 0, _, _ => none
  | _, _, [] => none
  | fuel + 1, depth, c :: r =>
    match quoteKind? c, c, depth with
    | some escapes, _, _ => (quotedText? c escapes r).map fun p => (.text p.1, p.2)
    | none, '[', 0 => none
    | none, '\x7b', 0 => none
    | none, '[', depth + 1 => (items fuel depth r).map fun p => (.list p.1, p.2)
    | none, '\x7b', depth + 1 => do
      let (lines, r) ← entries fuel depth r
      return ((← Tree.ofLines? lines).toToml, r)
    | none, _, _ => do
      let (w, r) := word (c :: r)
      return (← Scalar.ofWord? w, r)

/-- The items of a list up to its closing bracket. -/
def items : Nat → Nat → List Char → Option (List Toml × List Char)
  | 0, _, _ => none
  | fuel + 1, depth, cs =>
    match skipGap? false cs with
    | none => none
    | some (']' :: r) => some ([], r)
    | some r =>
      match value fuel depth r with
      | none => none
      | some (v, r) =>
        match skipGap? false r with
        | some (',' :: t) => (items fuel depth t).map fun p => (v :: p.1, p.2)
        | some (']' :: t) => some ([v], t)
        | _ => none

/-- The entries of a table in braces up to its closing brace. -/
def entries : Nat → Nat → List Char → Option (List Line × List Char)
  | 0, _, _ => none
  | fuel + 1, depth, cs =>
    match skipGap? false cs with
    | none => none
    | some ('\x7d' :: r) => some ([], r)
    | some r =>
      match entry fuel depth r with
      | none => none
      | some (e, r) =>
        match skipGap? false r with
        | some (',' :: t) => (entries fuel depth t).map fun p => (e :: p.1, p.2)
        | some ('\x7d' :: t) => some ([e], t)
        | _ => none

/-- A key with its value. -/
def entry : Nat → Nat → List Char → Option (Line × List Char)
  | 0, _, _ => none
  | fuel + 1, depth, cs =>
    match key? cs with
    | some (k, '=' :: r) =>
      (value fuel depth (skipBlanks r)).map fun p => (.entry k p.1, p.2)
    | _ => none

end

/-! ## Documents -/

/-- The line at the start of the characters, up to its end; `none` for one without content. -/
def line? (cs : List Char) : Option (Option Line × List Char) :=
  match skipBlanks cs with
  | '[' :: '[' :: r =>
    match key? r with
    | some (k, ']' :: ']' :: t) => (endLine? false t).map (some (.rowHeader k), ·)
    | _ => none
  | '[' :: r =>
    match key? r with
    | some (k, ']' :: t) => (endLine? false t).map (some (.header k), ·)
    | _ => none
  | r =>
    match endLine? false r with
    | some t => some (none, t)
    | none => do
      -- each character begins at most one value and one entry
      let (e, t) ← entry (2 * r.length + 2) maxDepth r
      return (some e, ← endLine? false t)

/-- The lines of a document that have content. -/
def lines? : Nat → List Char → Option (List Line)
  | 0, _ => none
  | _, [] => some []
  | fuel + 1, cs => do
    let (l, r) ← line? cs
    let ls ← lines? fuel r
    return l.toList ++ ls

/-- The table that a document describes; a byte order mark in front of it is passed over. -/
def parse? (document : String) : Option Toml := do
  let cs := match document.toList with
    | '\uFEFF' :: r => r
    | cs => cs
  let lines ← lines? (cs.length + 1) cs
  return (← Tree.ofLines? lines).toToml

end Toml
end Countersign
