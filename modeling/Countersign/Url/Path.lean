import Countersign.Url.Basic

/-!
# Paths

A path is read segment by segment behind the path that is already there: each dot segment is
resolved as soon as it ends.  The rules for `file` keep a drive letter in front.

* `Path.read` — reads segments up to the end of the path;
* `Path.shorten` — drops the last segment.
-/

namespace Countersign
namespace Path

open Text

/-- A letter with a colon or a bar, and nothing or a path end behind it. -/
def startsWithDrive : List Char → Bool
  | c :: d :: r =>
    isAlpha c && (d == ':' || d == '|') &&
      match r with
      | [] => true
      | e :: _ => e == '/' || e == '\\' || e == '?' || e == '#'
  | _ => false

/-- Exactly a letter with a colon or a bar. -/
def isDrive (s : List Char) : Bool := s.length == 2 && startsWithDrive s

/-- Exactly a letter with a colon. -/
def isNormalDrive (s : List Char) : Bool := isDrive s && s.getLast? == some ':'

/-- A segment that means the parent, also with escaped dots. -/
def isParent (s : List Char) : Bool :=
  ["..", "%2e%2e", "%2e.", ".%2e"].contains (String.ofList (s.map Char.toLower))

/-- A segment that means the same place, also with an escaped dot. -/
def isSame (s : List Char) : Bool := [".", "%2e"].contains (String.ofList (s.map Char.toLower))

def endsWithSlash (p : List Char) : Bool := p.getLast? == some '/'

/-- The length of a text up to and with its last slash. -/
def afterLastSlash (p : List Char) : Nat := p.length - (p.reverse.takeWhile (· != '/')).length

/-- Drops what follows the last slash, unless it is the drive letter of a file. -/
def pop (kind : SchemeKind) (p : List Char) : List Char :=
  let start := afterLastSlash p
  if kind == .file && isNormalDrive (p.drop start) then p else p.take start

/-- Drops the last segment. -/
def shorten (kind : SchemeKind) (p : List Char) : List Char :=
  if kind == .file && isNormalDrive p then p else pop kind p

/-- Whether the slash at the end closes a segment that a parent step removes: not the root, and
not a drive letter. -/
def lastSlashRemovable (p : List Char) : Bool :=
  let front := p.dropLast
  front.contains '/' && !startsWithDrive (p.drop (afterLastSlash front))

/-- Resolves the segment that started at `start`. The flag of the result says that a drive
letter was read. -/
def closeSegment (kind : SchemeKind) (p : List Char) (start : Nat) (slash : Bool) :
    List Char × Bool :=
  let tail := p.drop start
  let segment := if slash then tail.dropLast else tail
  if isParent segment then
    let p := p.take start
    let p := if endsWithSlash p && lastSlashRemovable p then p.dropLast else p
    let p := shorten kind p
    (if slash && !endsWithSlash p then p ++ ['/'] else p, false)
  else if isSame segment then
    let p := p.take start
    (if endsWithSlash p then p else p ++ ['/'], false)
  else if kind == .file && start == 1 && isDrive segment then
    (p.take start ++ segment.take 1 ++ ':' :: (if slash then ['/'] else []), true)
  else (p, false)

/-- The path of a file has one slash in front. -/
def finish (kind : SchemeKind) (p : List Char) : List Char :=
  if kind == .file then '/' :: p.dropWhile (· == '/') else p

/-- What reading a path gives. -/
structure Reading where
  path : List Char
  rest : List Char
  /-- A drive letter stands in front, so a file URL loses its host. -/
  drive : Bool

/-- Reads on behind `p`, whose open segment started at `start`. Unless `whole` is set, a query or
a fragment ends the path. -/
def readFrom (kind : SchemeKind) (whole : Bool) (p : List Char) (start : Nat) (drive : Bool) :
    List Char → Reading
  | [] =>
    let q := closeSegment kind p start false
    ⟨finish kind q.1, [], drive || q.2⟩
  | c :: r =>
    if c == '/' || (c == '\\' && kind.isSpecial) then
      let q := closeSegment kind (p ++ ['/']) start true
      readFrom kind whole q.1 q.1.length (drive || q.2) r
    else if !whole && (c == '?' || c == '#') then
      let q := closeSegment kind p start false
      ⟨finish kind q.1, c :: r, drive || q.2⟩
    else
      -- a drive letter in front is a segment of its own
      let split := kind == .file && isNormalDrive (p.drop 1)
      let p := if split then p ++ ['/'] else p
      let start := if split then start + 1 else start
      readFrom kind whole (p ++ Percent.encode Percent.path [c]) start drive r

/-- Reads segments behind the path `p`. -/
def read (kind : SchemeKind) (p input : List Char) : Reading :=
  readFrom kind false p p.length false input

/-- Reads the path behind an authority: a special scheme always has one. -/
def readStart (kind : SchemeKind) (whole : Bool) (input : List Char) : Reading :=
  match kind, input with
  | .other, [] => ⟨[], [], false⟩
  | .other, c :: r =>
    if !whole && (c == '?' || c == '#') then ⟨[], c :: r, false⟩
    else if c == '/' then readFrom kind whole [] 0 false (c :: r)
    else readFrom kind whole ['/'] 1 false (c :: r)
  | _, c :: r =>
    if c == '/' || c == '\\' then readFrom kind whole ['/'] 1 false r
    else readFrom kind whole ['/'] 1 false (c :: r)
  | _, [] => readFrom kind whole ['/'] 1 false []

end Path
end Countersign
