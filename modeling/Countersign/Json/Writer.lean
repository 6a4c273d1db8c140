import Countersign.Json.Basic
import Countersign.Text.Base64

/-!
# Writing JSON

The compact form: no blanks, fields in their order, and of the characters in a string only
quotes, backslashes and controls are escaped.

* `Json.render` — the compact text of a value.
-/

namespace Countersign
namespace Json

/-- The escaped form of a character in a string. -/
def escapeChar (c : Char) : List Char :=
  if c == '"' then ['\\', '"']
  else if c == '\\' then ['\\', '\\']
  else if c.toNat ≥ 0x20 then [c]
  else if c == '\n' then ['\\', 'n']
  else if c == '\r' then ['\\', 'r']
  else if c == '\t' then ['\\', 't']
  else if c.toNat == 8 then ['\\', 'b']
  else if c.toNat == 12 then ['\\', 'f']
  else ['\\', 'u', '0', '0', Hex.digit (c.toNat / 16), Hex.digit (c.toNat % 16)]

/-- A quoted string in front of more text. -/
def quote (s : String) (rest : List Char) : List Char :=
  '"' :: s.toList.foldr (fun c r => escapeChar c ++ r) ('"' :: rest)

/-- The text of a value in front of more text. -/
def renderOnto : Json → List Char → List Char
  | .null, rest => "null".toList ++ rest
  | .bool true, rest => "true".toList ++ rest
  | .bool false, rest => "false".toList ++ rest
  | .integer n, rest =>
    (if n < 0 then ['-'] else []) ++ Nat.toDigits 10 n.natAbs ++ rest
  | .decimal literal, rest => literal.toList ++ rest
  | .text s, rest => quote (s.getD "") rest
  | .list items, rest => '[' :: renderItems items (']' :: rest)
  | .object fields, rest => '\x7b' :: renderFields fields ('\x7d' :: rest)
where
  /-- The values of a list, separated by commas. -/
  renderItems : List Json → List Char → List Char
    | [], rest => rest
    | [j], rest => renderOnto j rest
    | j :: js, rest => renderOnto j (',' :: renderItems js rest)
  /-- The fields of an object, separated by commas. -/
  renderFields : List (Option String × Json) → List Char → List Char
    | [], rest => rest
    | [(k, j)], rest => quote (k.getD "") (':' :: renderOnto j rest)
    | (k, j) :: fs, rest => quote (k.getD "") (':' :: renderOnto j (',' :: renderFields fs rest))

/-- The compact text of a value. -/
def render (j : Json) : String := String.ofList (renderOnto j [])

end Json
end Countersign
