import Countersign.Error
import Countersign.Keys.ProofKey
import Countersign.Message
import Countersign.Text.Blank
import Countersign.Url.Parser

/-!
# What the words of a command stand for

A user may leave out what is usual: the method `GET`, the scheme `https`, the host `localhost`
before a port.  The words for a field and for a key file are each cut once, at the first
separator.

* `Target.urlOf` — the URL that a word stands for;
* `Target.ofWords` — method and URL;
* `Target.field` — a header field from `NAME: VALUE`;
* `Target.keyFile` — algorithm and path from `ALG=PEM`.
-/

namespace Countersign

open Text

/-- What a command is about: a method and a URL. -/
structure Target where
  method : String := "GET"
  url : Url
deriving DecidableEq, Repr

namespace Target

/-! ## URLs -/

/-- The characters before the first `://`. -/
def beforeSlashes? : List Char → Option (List Char)
  | [] => none
  | c :: r =>
    if ['/', '/'].isPrefixOf r && c == ':' then some []
    else (beforeSlashes? r).map (c :: ·)

/-- Whether characters form a scheme: a letter, then letters, digits, `+`, `-` and `.`. -/
def isScheme : List Char → Bool
  | [] => false
  | c :: r => isAlpha c && r.all fun d => isAlnum d || ['+', '-', '.'].contains d

/-- Whether a word begins with a scheme and `://`. -/
def hasScheme (cs : List Char) : Bool := (beforeSlashes? cs).any isScheme

/-- Port and rest of `:PORT` and `:PORT/REST`; the port may be empty. -/
def localPort? : List Char → Option (List Char × List Char)
  | ':' :: r =>
    let port := r.takeWhile (· != '/')
    if port.all Char.isDigit then some (port, r.dropWhile (· != '/')) else none
  | _ => none

/-- The URL in full that a word stands for. -/
def complete (word : String) : String :=
  let cs := word.toList
  match localPort? cs with
  | some ([], rest) => "http://localhost" ++ String.ofList rest
  | some (port, rest) => "http://localhost:" ++ String.ofList port ++ String.ofList rest
  | none => if hasScheme cs || "urn:".isPrefixOf word then word else "https://" ++ word

def urlOf (word : String) : Except Failure Url := (Url.parse (complete word)).mapError .url

/-! ## Words -/

def ofWords : List String → Except Failure Target
  | [word] => do return { url := ← urlOf word }
  | [method, word] => do
    if Method.isValid (upper method) then return { method := upper method, url := ← urlOf word }
    else throw (.argument (.method method))
  | _ => throw (.argument .targetCount)

/-- What stands before and behind the first occurrence of a character. -/
def splitAt? (separator : Char) (word : String) : Option (String × String) :=
  match word.toList.dropWhile (· != separator) with
  | [] => none
  | _ :: rest => some (String.ofList (word.toList.takeWhile (· != separator)), String.ofList rest)

/-- Name and value of a header field. -/
def field (word : String) : Except Failure (String × Bytes) :=
  match splitAt? ':' word with
  | none => .error (.argument (.headerForm word))
  | some (before, behind) =>
    match Headers.name? (trim before) with
    | none => .error (.argument (.headerName before))
    | some name =>
      let value := Utf8.encode (trim behind)
      if Headers.isValue value then .ok (name, value)
      else .error (.argument (.headerValue name))

def keyFile (word : String) : Except Failure (ProofAlgorithm × String) :=
  match splitAt? '=' word with
  | none => .error (.argument (.keyForm word))
  | some (before, behind) => do
    let algorithm ← (ProofAlgorithm.ofName (trim before)).mapError .proof
    if (trim behind).isEmpty then throw (.argument (.keyPath algorithm.name))
    return (algorithm, trim behind)

end Target
end Countersign
