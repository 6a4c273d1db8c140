import Countersign.Url.Path

/-!
# Reading URLs

A text is read as a URL by the rules of the living URL standard: blanks and controls at the ends
and all tabs and line breaks are dropped, the scheme decides how the rest is read, and a text
without a scheme is resolved against a base.

* `Url.parse` — an absolute URL;
* `Url.resolve` — a reference against a base;
* `Url.withPath` — the URL with another path.
-/

namespace Countersign
namespace Url

open Text

/-! ## Input -/

/-- A character that is dropped at the ends of the text. -/
def isEdge (c : Char) : Bool := c.toNat ≤ 0x20

/-- A character that is dropped everywhere. -/
def isDropped (c : Char) : Bool := c == '\t' || c == '\n' || c == '\r'

/-- The characters that count. -/
def significant (s : String) : List Char :=
  let trimmed := ((s.toList.dropWhile isEdge).reverse.dropWhile isEdge).reverse
  trimmed.filter fun c => !isDropped c

/-- The scheme in front of a text, in small letters, and the text behind its colon. -/
def splitScheme (cs : List Char) : Option (String × List Char) :=
  match cs with
  | [] => none
  | c :: _ =>
    if !isAlpha c then none
    else
      match cs.dropWhile fun d => isAlnum d || d == '+' || d == '-' || d == '.' with
      | ':' :: rest =>
        some (String.ofList ((cs.take (cs.length - rest.length - 1)).map Char.toLower), rest)
      | _ => none

/-! ## Query and fragment -/

/-- Adds the query and the fragment that a rest spells. -/
def withTail (u : Url) (rest : List Char) : Url :=
  let encodeQuery (cs : List Char) : String :=
    String.ofList
      (Percent.encode (if u.kind.isSpecial then Percent.specialQuery else Percent.query) cs)
  let encodeFragment (cs : List Char) : String :=
    String.ofList (Percent.encode Percent.fragment cs)
  match rest with
  | '?' :: r =>
    let u := { u with query := some (encodeQuery (r.takeWhile (· != '#'))) }
    match r.dropWhile (· != '#') with
    | _ :: f => { u with fragment := some (encodeFragment f) }
    | [] => u
  | '#' :: f => { u with fragment := some (encodeFragment f) }
  | _ => u

/-! ## Authority -/

def endsAuthority (kind : SchemeKind) (c : Char) : Bool :=
  c == '/' || c == '?' || c == '#' || (c == '\\' && kind.isSpecial)

/-- The user name and password of a text in front of an at sign. An empty password does not
count. -/
def userinfo (cs : List Char) : Authority :=
  let encode (cs : List Char) : String := String.ofList (Percent.encode Percent.userinfo cs)
  match cs.dropWhile (· != ':') with
  | _ :: c :: r => { username := encode (cs.takeWhile (· != ':')), password := some (encode (c :: r)) }
  | _ => { username := encode (cs.takeWhile (· != ':')) }

/-- Splits a text at the last at sign of its authority. -/
def splitUserinfo (kind : SchemeKind) (cs : List Char) :
    Except UrlError (Authority × List Char) :=
  let text := cs.takeWhile fun c => !endsAuthority kind c
  if !text.contains '@' then .ok ({}, cs)
  else
    let hostLength := (text.reverse.takeWhile (· != '@')).length
    let user := text.take (text.length - hostLength - 1)
    let rest := cs.drop (text.length - hostLength)
    match user, rest with
    | [], c :: _ => if endsAuthority kind c then .error .emptyHost else .ok ({}, rest)
    | _, _ => .ok (userinfo user, rest)

/-- The text of a host: a colon ends it outside brackets. -/
def hostText (kind : SchemeKind) : Bool → List Char → List Char
  | _, [] => []
  | inside, c :: r =>
    if endsAuthority kind c || (c == ':' && !inside) then []
    else c :: hostText kind (if c == '[' then true else if c == ']' then false else inside) r

/-- The port behind a colon, if it is not the one that the scheme implies. -/
def readPort (scheme : String) (cs : List Char) : Except UrlError (Option Nat × List Char) :=
  let digits := cs.takeWhile Char.isDigit
  let rest := cs.dropWhile Char.isDigit
  -- the bound keeps the number small and is no port itself
  let value := digits.foldl (fun n d => min 100000 (n * 10 + (d.toNat - 48))) 0
  if value > 65535 then .error .invalidPort
  else if (rest.head?.map fun c => c == '/' || c == '\\' || c == '?' || c == '#').getD true then
    .ok (if digits.isEmpty || defaultPort scheme == some value then none else some value, rest)
  else .error .invalidPort

/-- Reads what follows `//`. -/
def afterSlashes (scheme : String) (cs : List Char) : Except UrlError Url := do
  let kind := SchemeKind.of scheme
  let (user, rest) ← splitUserinfo kind cs
  let text := hostText kind false rest
  let rest := rest.drop text.length
  -- files have no authority of this form, so only the other special schemes need a host here
  if kind == .special && text.isEmpty then throw .emptyHost
  let host ← if kind.isSpecial then Host.parse text else Host.parseForeign text
  if host.isEmpty && (kind.isSpecial || rest.head? == some ':') then throw .emptyHost
  let (port, rest) ← match rest with
    | ':' :: r => readPort scheme r
    | _ => pure (none, rest)
  if host.isEmpty && !user.userinfo.isEmpty then throw .emptyHost
  let reading := Path.readStart kind false rest
  pure <| withTail
    { scheme, authority := some { user with host, port }, path := String.ofList reading.path }
    reading.rest

/-! ## Files -/

def fileUrl (host : String) (reading : Path.Reading) : Url :=
  withTail
    { scheme := "file", authority := some { host := if reading.drive then "" else host }
      path := String.ofList reading.path }
    reading.rest

/-- A file URL whose host, if any, stays also before a drive letter. -/
def keepHost (authority : Option Authority) (reading : Path.Reading) : Url :=
  withTail { scheme := "file", authority, path := String.ofList reading.path } reading.rest

/-- Reads what follows `file:` or a reference against a file. -/
def readFile (base : Option Url) (cs : List Char) : Except UrlError Url :=
  let base := base.filter fun b => b.scheme == "file"
  let isSlash (c : Char) : Bool := c == '/' || c == '\\'
  match cs with
  | c :: d :: r =>
    if isSlash c && isSlash d then
      let text := r.takeWhile fun c => !(c == '/' || c == '\\' || c == '?' || c == '#')
      if text.isEmpty || Path.isDrive text then .ok (fileUrl "" (Path.read .file ['/'] r))
      else
        match Host.parse text with
        | .error e => .error e
        | .ok host =>
          let rest := r.drop text.length
          if host == "localhost" then .ok (fileUrl "" (Path.read .file ['/'] rest))
          else .ok (fileUrl host (Path.readStart .file false rest))
    else if isSlash c then .ok (rooted base c (d :: r))
    else .ok (relative base (c :: d :: r))
  | [c] => if isSlash c then .ok (rooted base c []) else .ok (relative base [c])
  | [] => .ok (relative base [])
where
  /-- A path from the root, on the host or drive of the base. -/
  rooted (base : Option Url) (c : Char) (r : List Char) : Url :=
    match base with
    | none => keepHost (some {}) (Path.read .file [] (c :: r))
    | some b =>
      if Path.startsWithDrive r then keepHost (some {}) (Path.read .file [] (c :: r))
      else
        let segment := (b.path.toList.drop 1).takeWhile (· != '/')
        if Path.isNormalDrive segment then
          keepHost (some {}) (Path.read .file ('/' :: segment) (c :: r))
        else keepHost b.authority (Path.read .file [] (c :: r))
  /-- A query, a fragment or a path next to that of the base. -/
  relative (base : Option Url) (cs : List Char) : Url :=
    match base with
    | none => keepHost (some {}) (Path.read .file ['/'] cs)
    | some b =>
      match cs with
      | [] => { b with fragment := none }
      | '?' :: _ => withTail { b with query := none, fragment := none } cs
      | '#' :: _ => withTail { b with fragment := none } cs
      | _ =>
        if Path.startsWithDrive cs then keepHost (some {}) (Path.read .file ['/'] cs)
        else keepHost b.authority (Path.read .file (Path.shorten .file b.path.toList) cs)

/-! ## References -/

/-- Resolves a reference without scheme against a base that is no file. -/
def readRelative (base : Url) (cs : List Char) : Except UrlError Url :=
  let onPath (reading : Path.Reading) : Url :=
    withTail { base with path := String.ofList reading.path, query := none, fragment := none }
      reading.rest
  let isSlash (c : Char) : Bool := c == '/' || c == '\\'
  match cs with
  | [] => .ok { base with fragment := none }
  | '?' :: _ => .ok (withTail { base with query := none, fragment := none } cs)
  | '#' :: _ => .ok (withTail { base with fragment := none } cs)
  | c :: r =>
    if isSlash c then
      if (r.head?.map isSlash).getD false then
        match cs with
        | '/' :: '/' :: rest => afterSlashes base.scheme rest
        | _ => afterSlashes base.scheme (cs.dropWhile isSlash)
      else .ok (onPath (Path.read base.kind ['/'] r))
    else
      let path := Path.pop base.kind base.path.toList
      let path := if path.isEmpty then ['/'] else path
      .ok (onPath (Path.read base.kind path cs))

def readScheme (base : Option Url) (scheme : String) (cs : List Char) : Except UrlError Url :=
  match SchemeKind.of scheme with
  | .file => readFile base cs
  | .special =>
    let isSlash (c : Char) : Bool := c == '/' || c == '\\'
    let slashes := (cs.takeWhile isSlash).length
    match base with
    | some b =>
      -- without two slashes the same scheme means a reference against the base
      if slashes < 2 && b.scheme == scheme then readRelative b cs
      else afterSlashes scheme (cs.drop slashes)
    | none => afterSlashes scheme (cs.drop slashes)
  | .other =>
    match cs with
    | '/' :: '/' :: r => afterSlashes scheme r
    | '/' :: r =>
      let reading := Path.read .other ['/'] r
      .ok (withTail { scheme, path := String.ofList reading.path } reading.rest)
    | _ =>
      let ends (c : Char) : Bool := c == '?' || c == '#'
      let path := Percent.encode Percent.controls (cs.takeWhile fun c => !ends c)
      .ok (withTail { scheme, path := String.ofList path } (cs.dropWhile fun c => !ends c))

/-- Reads a text with or without a base. -/
def read (base : Option Url) (s : String) : Except UrlError Url :=
  let cs := significant s
  match splitScheme cs with
  | some (scheme, rest) => readScheme base scheme rest
  | none =>
    match base with
    | none => .error .relativeWithoutBase
    | some b =>
      if cs.head? == some '#' then .ok (withTail { b with fragment := none } cs)
      else if b.isFixed then .error .relativeToFixedBase
      else if b.kind == .file then readFile (some b) cs
      else readRelative b cs

def parse (s : String) : Except UrlError Url := read none s

def resolve (base : Url) (reference : String) : Except UrlError Url := read (some base) reference

/-- The URL with another path; query and fragment stay. -/
def withPath (u : Url) (path : String) : Url :=
  let cs := path.toList.filter fun c => !isDropped c
  if u.isFixed then
    let escaped := match cs with
      | '/' :: r => '%' :: '2' :: 'F' :: Percent.encode Percent.controls r
      | _ => Percent.encode Percent.controls cs
    { u with path := String.ofList escaped }
  else { u with path := String.ofList (Path.readStart u.kind true cs).path }

end Url
end Countersign
