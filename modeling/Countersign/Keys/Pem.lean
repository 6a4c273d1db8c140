import Countersign.Text.Base64

/-!
# Key documents

A key document is a text with sections.  A section starts with a line `-----BEGIN label-----` and
ends with a line `-----END label-----`; the lines between them are a base64 text.  Text outside
sections is ignored.  A damaged section is reported in its place, and reading goes on behind it.

* `Pem.Section` — a key, something else, or damage;
* `Pem.sections` — the sections of a document, in order;
* `Pem.privateKeys` — the private keys and the damage among them.
-/

namespace Countersign
namespace Pem

/-- A section of a key document. -/
inductive Section where
  /-- The octets of a private key. -/
  | privateKey (octets : Bytes)
  /-- A certificate, a public key or a private key in another form. -/
  | other
  | damaged
deriving DecidableEq, Repr

/-! ## Lines -/

def endsLine (b : UInt8) : Bool := b == 0x0A || b == 0x0D

/-- Lines with the octet that ends them. -/
def linesFrom (line : Bytes) : Bytes → List Bytes
  | [] => if line.isEmpty then [] else [line]
  | b :: bs => if endsLine b then (line ++ [b]) :: linesFrom [] bs else linesFrom (line ++ [b]) bs

/-- The octets of an ASCII text. -/
def ascii (s : String) : Bytes := s.toList.map fun c => UInt8.ofNat c.toNat

/-- The start of the line that opens a section. -/
def opening : Bytes := ascii "-----BEGIN "

/-- The dashes at the end of a line, counted, and what stands before the first of them, both from
the line's reverse; blanks among the dashes do not count. -/
def splitTrailer (count : Nat) (before : Bytes) : Bytes → Nat × Bytes
  | [] => (count, before)
  | b :: bs =>
    if b == 0x2D then splitTrailer (count + 1) bs bs
    else if endsLine b || b == 0x20 then splitTrailer count before bs
    else (count, before)

/-- The label in a line that opens a section, unless the line is damaged. -/
def label? (line : Bytes) : Option Bytes :=
  let (count, before) := splitTrailer 0 [] line.reverse
  if count == 5 then some (before.reverse.drop opening.length) else none

/-- The start of the line that closes a section. -/
def closing (label : Bytes) : Bytes := ascii "-----END " ++ label ++ ascii "-----"

/-! ## Sections -/

/-- Labels of sections that are read although they are no private keys. -/
def otherLabels : List Bytes :=
  ["CERTIFICATE", "PUBLIC KEY", "RSA PRIVATE KEY", "EC PRIVATE KEY", "X509 CRL",
    "CERTIFICATE REQUEST", "ECHCONFIG"].map ascii

/-- Whether an octet of a base64 text is a blank. -/
def isGap (b : UInt8) : Bool := b == 0x20 || b == 0x09 || endsLine b

/-- The octets of the base64 text between the lines of a section. -/
def decode? (body : Bytes) : Option Bytes :=
  Base64.decodePadded? ((body.filter fun b => !isGap b).map fun b => Char.ofNat b.toNat)

/-- A closed section; sections with unknown labels are passed over. -/
def closed (label body : Bytes) : Option Section :=
  if label == ascii "PRIVATE KEY" then
    some (match decode? body with
      | some octets => .privateKey octets
      | none => .damaged)
  else if otherLabels.contains label then
    some (if (decode? body).isSome then .other else .damaged)
  else none

/-- Reads lines; the label of the open section and the text read in it so far go along. -/
def sectionsFrom (section? : Option Bytes) (body : Bytes) : List Bytes → List Section
  | [] => if section?.isSome then [.damaged] else []
  | line :: lines =>
    if opening.isPrefixOf line then
      match label? line with
      -- the text of a section that is still open stays, and is read with this one
      | some label => sectionsFrom (some label) body lines
      | none => .damaged :: sectionsFrom none [] lines
    else
      match section? with
      | none => sectionsFrom none body lines
      | some label =>
        if (closing label).isPrefixOf line then
          (closed label body).toList ++ sectionsFrom none [] lines
        else sectionsFrom (some label) (body ++ line) lines

/-- The sections of a document, in order. -/
def sections (document : Bytes) : List Section := sectionsFrom none [] (linesFrom [] document)

/-- The private keys of a document in order, with `none` in the place of damage. -/
def privateKeys (document : Bytes) : List (Option Bytes) :=
  (sections document).filterMap fun s =>
    match s with
    | .privateKey octets => some (some octets)
    | .damaged => some none
    | .other => none

end Pem
end Countersign
