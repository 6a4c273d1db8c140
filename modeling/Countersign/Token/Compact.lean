import Countersign.Text.Base64
import Countersign.Json.Writer

/-!
# Signed tokens as texts

A signed token is three texts with dots between them: a header, a payload and a signature, each in
base64.  What is signed are the first two texts with the dot between them.

* `Token.split?` — the parts of a token;
* `Token.signed` — the text that is signed;
* `Token.assemble` — a token from its parts.
-/

namespace Countersign
namespace Token

/-- The parts of a token: header, payload and signature. -/
structure Parts where
  header : String
  payload : String
  signature : String
deriving DecidableEq, Repr

/-- The text in front of the last dot and the one behind it. -/
def splitLastDot (cs : List Char) : Option (List Char × List Char) :=
  let tail := (cs.reverse.takeWhile (· != '.')).reverse
  if tail.length < cs.length then some (cs.take (cs.length - tail.length - 1), tail) else none

/-- The parts of a token: the payload and the signature have no dots. -/
def split? (s : String) : Option Parts := do
  let (message, signature) ← splitLastDot s.toList
  let (header, payload) ← splitLastDot message
  some ⟨String.ofList header, String.ofList payload, String.ofList signature⟩

def signed (header payload : String) : Bytes := Utf8.encode (header ++ "." ++ payload)

def part (j : Json) : String := Base64.encodeUrl (Utf8.encode j.render)

/-- The token of a header, a payload and the signature that a signer gives for them. -/
def assemble (header payload : Json) (sign : Bytes → Bytes) : String :=
  let h := part header
  let p := part payload
  h ++ "." ++ p ++ "." ++ Base64.encodeUrl (sign (signed h p))

end Token
end Countersign
