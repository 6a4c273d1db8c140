import Countersign.Client.Wire
import Countersign.Text.Ascii

/-!
# Messages on a connection

A connection carries one request and its answer, and is closed behind the answer.  So an answer that says
nothing of its length ends with the connection.

* `Connection.encode` — the octets of a request;
* `Connection.decode?` — the answer that octets spell.
-/

namespace Countersign
namespace Connection

open Text

def lineEnd : Bytes := [0x0D, 0x0A]

/-! ## Requests -/

def line (octets : Bytes) : Bytes := octets ++ lineEnd

def field (name : String) (value : Bytes) : Bytes := line (Utf8.encode (name ++ ": ") ++ value)

/-- What the server is asked for: the path, and the query. -/
def targetOf (u : Url) : String :=
  (if u.path.isEmpty then "/" else u.path) ++ ((u.query.map ("?" ++ ·)).getD "")

/-- The name of a server, with its port unless that is the usual one. -/
def hostOf (u : Url) : String :=
  ((u.authority.map fun a => { a with username := "", password := none : Authority }.toString)).getD ""

def ownFields : List String := ["host", "content-length", "connection"]

def encode (r : Request) : Bytes :=
  line (Utf8.encode (r.method ++ " " ++ targetOf r.uri ++ " HTTP/1.1")) ++
  field "host" (Utf8.encode (hostOf r.uri)) ++
  ((r.headers.pairs.filter fun f => !ownFields.contains f.1).flatMap fun f => field f.1 f.2) ++
  (match r.body with
    | some body => field "content-length" (Utf8.encode (toString body.length))
    | none => []) ++
  field "connection" (Utf8.encode "close") ++ lineEnd ++ r.body.getD []

/-! ## Answers -/

/-- The line at the start of octets, without its end, and the rest; `none` if no line ends. -/
def splitLine? : Bytes → Option (Bytes × Bytes)
  | [] => none
  | 0x0D :: 0x0A :: r => some ([], r)
  | 0x0A :: r => some ([], r)
  | b :: r => (splitLine? r).map fun p => (b :: p.1, p.2)

/-- The lines up to an empty one, and the rest. -/
def splitHead? : Nat → Bytes → Option (List Bytes × Bytes)
  | 0, _ => none
  | fuel + 1, bs =>
    match splitLine? bs with
    | none => none
    | some ([], r) => some ([], r)
    | some (l, r) => (splitHead? fuel r).map fun p => (l :: p.1, p.2)

/-- The status in the first line of an answer. -/
def status? (l : Bytes) : Option Nat :=
  match (Utf8.decodeLossy l).splitOn " " with
  | version :: code :: _ =>
    if "HTTP/1.".isPrefixOf version && code.length == 3 then
      code.toNat?.filter Status.isValid
    else none
  | _ => none

/-- Blanks around a value. -/
def isGap (b : UInt8) : Bool := b == 0x20 || b == 0x09

/-- A header field of an answer. -/
def field? (l : Bytes) : Option (String × Bytes) := do
  let name ← Headers.name? (Utf8.decodeLossy (l.takeWhile (· != 0x3A)))
  let value := ((l.dropWhile (· != 0x3A)).drop 1).dropWhile isGap
  let value := (value.reverse.dropWhile isGap).reverse
  if Headers.isValue value then some (name, value) else none

/-- The number that hexadecimal digits at the start of a line write. -/
def chunkSize? (l : Bytes) : Option Nat :=
  match ((l.map fun b => Char.ofNat b.toNat).takeWhile isHexDigit) with
  | [] => none
  | ds => some (ds.foldl (fun n c => n * 16 + (hexValue? c).getD 0) 0)

/-- The octets of a body that comes in chunks. -/
def chunks? : Nat → Bytes → Option Bytes
  | 0, _ => none
  | fuel + 1, bs => do
    let (l, r) ← splitLine? bs
    match ← chunkSize? l with
    | 0 => some []
    | size =>
      if r.length < size then none
      else
        let (_, rest) ← splitLine? (r.drop size)
        return r.take size ++ (← chunks? fuel rest)

/-- The body of an answer, by what its header fields say of its length. -/
def body? (h : Headers) (bs : Bytes) : Option Bytes :=
  if (h.texts "transfer-encoding").any fun v => (lower v).splitOn "chunked" != [lower v] then
    chunks? (bs.length + 1) bs
  else
    match h.texts "content-length" with
    | [] => some bs
    | v :: _ => v.toNat?.bind fun n => if bs.length < n then none else some (bs.take n)

/-- The answer that octets spell; an interim answer is passed over. -/
def answers? (r : Request) : Nat → Bytes → Option Response
  | 0, _ => none
  | fuel + 1, bs => do
    match ← splitHead? (bs.length + 1) bs with
    | ([], _) => none
    | (first :: fields, rest) =>
      let status ← status? first
      if Wire.isInterim status then answers? r fuel rest
      else
        let headers := ((← fields.mapM field?).foldl fun h f => h.append f.1 f.2) ({} : Headers)
        let body ← if Wire.isBodiless r.method status then some [] else body? headers rest
        return { uri := r.uri, status, headers, body }

def decode? (r : Request) (bs : Bytes) : Option Response := answers? r (bs.length + 1) bs

end Connection
end Countersign
