import Countersign.Url.Host

/-!
# URLs

A URL is held by its parts, each in the one form in which it is written.  The written form of the
whole is computed from them.

* `Url` — the parts;
* `Url.toString` — the written form;
* `Url.withoutFragment` — the URL as a server sees it;
* `SchemeKind` — what the scheme says about the syntax of the rest.
-/

namespace Countersign

/-- What a scheme says about the rest of a URL: the special schemes have a host and a rooted
path, `file` has its own rules for both, and any other scheme may have either or neither. -/
inductive SchemeKind where
  | file
  | special
  | other
deriving DecidableEq, Repr, Inhabited

namespace SchemeKind

def of (scheme : String) : SchemeKind :=
  if scheme == "file" then .file
  else if ["http", "https", "ws", "wss", "ftp"].contains scheme then .special
  else .other

/-- Whether backslashes count as slashes. -/
def isSpecial : SchemeKind → Bool
  | .other => false
  | _ => true

end SchemeKind

def defaultPort (scheme : String) : Option Nat :=
  if scheme == "http" || scheme == "ws" then some 80
  else if scheme == "https" || scheme == "wss" then some 443
  else if scheme == "ftp" then some 21
  else none

/-- What stands between `//` and the path. -/
structure Authority where
  username : String := ""
  password : Option String := none
  host : String := ""
  port : Option Nat := none
deriving DecidableEq, Repr, Inhabited

namespace Authority

/-- The user name and the password with their signs. -/
def userinfo (a : Authority) : String :=
  match a.password with
  | some p => a.username ++ ":" ++ p ++ "@"
  | none => if a.username.isEmpty then "" else a.username ++ "@"

/-- The written form. -/
def toString (a : Authority) : String :=
  a.userinfo ++ a.host ++
    match a.port with
    | some p => ":" ++ String.ofList (Nat.toDigits 10 p)
    | none => ""

end Authority

structure Url where
  scheme : String
  authority : Option Authority := none
  path : String := ""
  query : Option String := none
  fragment : Option String := none
deriving DecidableEq, Repr, Inhabited

namespace Url

def kind (u : Url) : SchemeKind := SchemeKind.of u.scheme

/-- Whether the path is one opaque text: without authority and not rooted. Nothing but a
fragment can be resolved against such a URL. -/
def isFixed (u : Url) : Bool := u.authority.isNone && u.path.toList.head? != some '/'

/-- The written form without query and fragment. A path that would read as an authority is set
off by `/.`. -/
def beforeQuery (u : Url) : String :=
  u.scheme ++ ":" ++
    (match u.authority with
    | some a => "//" ++ a.toString
    | none => if u.path.toList.take 2 == ['/', '/'] then "/." else "") ++ u.path

/-- The written form. -/
def toString (u : Url) : String :=
  u.beforeQuery ++
    (match u.query with
    | some q => "?" ++ q
    | none => "") ++
    (match u.fragment with
    | some f => "#" ++ f
    | none => "")

/-- An opaque path loses the blanks at its end when nothing follows it any more. -/
def trimFixedPath (u : Url) : Url :=
  if u.isFixed && u.query.isNone && u.fragment.isNone then
    { u with path := String.ofList (u.path.toList.reverse.dropWhile (· == ' ')).reverse }
  else u

/-- The URL without its fragment, which never reaches a server. -/
def withoutFragment (u : Url) : Url := trimFixedPath { u with fragment := none }

/-- The URL without its query. -/
def withoutQuery (u : Url) : Url := trimFixedPath { u with query := none }

theorem withoutFragment_fragment (u : Url) : u.withoutFragment.fragment = none := by
  unfold withoutFragment trimFixedPath
  split <;> rfl

end Url
end Countersign
