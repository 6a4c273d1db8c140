import Countersign.Message
import Countersign.Error
import Countersign.Run.Program

/-!
# A request over the wire

The transport hands a request to a connection, and follows where the server redirects it to.  A redirect
may turn the request into one that only reads: then its body goes, and the fields that describe the
body.

* `Wire` — the question that a connection answers;
* `Wire.next?` — the request that a redirect asks for;
* `Wire.send` — the answer to a request, after all redirects.
-/

namespace Countersign

open Program Text

/-- Why a connection gives no answer. -/
inductive WireFault where
  | timedOut
  | unreachable
  | broken
deriving DecidableEq, Repr, Inhabited

/-- The question of a connection: what is answered to this request? -/
def Wire : Interface := ⟨Request, fun _ => Except WireFault Response⟩

namespace Wire

/-- How the client calls itself. -/
def agent : String := "solid-auth/0.1.0"

/-- How many redirects of one request are followed. -/
def maxRedirects : Nat := 10

/-- Whether requests can be sent to a URL at all. -/
def isReachable (u : Url) : Bool :=
  (u.scheme == "http" || u.scheme == "https") && u.authority.isSome

/-- What is said of a URL that requests cannot be sent to. -/
def refused (u : Url) : TransportError :=
  .invalidRequest ("builder error for url (" ++ u.toString ++ ")")

/-- What is said of a fault, about the request to a URL. -/
def failed (asked : Url) (u : Url) : WireFault → TransportError
  | .timedOut => .timeout asked.toString
  | .unreachable =>
    .connect asked.toString ("error sending request for url (" ++ u.toString ++ ")")
  | .broken => .request ("error sending request for url (" ++ u.toString ++ ")")

/-- Adds a field unless the request has one of the name. -/
def withDefault (name value : String) (r : Request) : Request :=
  if r.headers.contains name then r else r.withHeader name value

/-- A request as it goes over the wire. -/
def prepared (r : Request) : Request :=
  withDefault "user-agent" agent (withDefault "accept" "*/*" { r with uri := r.uri.withoutFragment })

/-! ## Redirects -/

def bodyFields : List String :=
  ["content-type", "content-length", "content-encoding", "transfer-encoding"]

/-- A request without body, and without what describes it. -/
def withoutBody (r : Request) : Request :=
  { r with body := none, headers := bodyFields.foldl Headers.erase r.headers }

/-- The fields that only the server they were meant for may see. -/
def guardedFields : List String :=
  ["authorization", "cookie", "cookie2", "proxy-authorization", "www-authenticate"]

def sameServer (u v : Url) : Bool :=
  let place (w : Url) := w.authority.map fun a => (a.host, a.port.or (defaultPort w.scheme))
  place u == place v

/-- How a status redirects a request, if it does. -/
def redirected? (status : Nat) (r : Request) : Option Request :=
  match status with
  | 301 | 302 => some (if r.method == "POST" then { withoutBody r with method := "GET" } else r)
  | 303 => some { withoutBody r with method := if r.method == "HEAD" then "HEAD" else "GET" }
  | 307 | 308 => some r
  | _ => none

/-- Where an answer redirects to. -/
def location? (answer : Response) (u : Url) : Option Url := do
  let value ← (answer.headers.values "location").head?
  let target ← (u.resolve (← Utf8.decode? value)).toOption
  let authority ← target.authority
  if authority.host.isEmpty then none else some target.withoutFragment

/-- The request that a redirect asks for. -/
def next? (answer : Response) (r : Request) : Option Request := do
  let again ← redirected? answer.status r
  let uri ← location? answer r.uri
  let headers :=
    if sameServer r.uri uri then again.headers
    else guardedFields.foldl Headers.erase again.headers
  return { again with uri, headers }

/-! ## Answers -/

/-- Whether an answer only announces another one. -/
def isInterim (status : Nat) : Bool := status < 200 && status != 101

/-- Whether an answer comes without body. -/
def isBodiless (method : String) (status : Nat) : Bool :=
  method == "HEAD" || status < 200 || status == 204 || status == 304

def understood (r : Request) (answer : Response) : Except WireFault Response :=
  if isInterim answer.status then .error .broken
  else .ok {
    answer with
    uri := r.uri
    body := if isBodiless r.method answer.status then [] else answer.body }

/-- The answer to a request, after at most so many redirects. -/
def follow (asked : Url) : Nat → Request → Program Wire (Except TransportError Response)
  | redirects, r =>
    .ask (show Wire.Op from r) fun given =>
      match given >>= understood r with
      | .error fault => done (.error (failed asked r.uri fault))
      | .ok answer =>
        match next? answer r, redirects with
        | none, _ => done (.ok answer)
        | some _, 0 =>
          done (.error (.request ("error following redirect for url (" ++ r.uri.toString ++ ")")))
        | some next, redirects + 1 =>
          if isReachable next.uri then follow asked redirects next
          else done (.error (refused next.uri))

/-- The answer to a request. The time that the request allows counts before the time that the transport
allows; a request that is allowed no time is not sent. -/
def send (patience : Option Nat) (r : Request) : Program Wire (Except TransportError Response) :=
  if !isReachable r.uri then done (.error (refused r.uri))
  else if r.timeout.or patience == some 0 then done (.error (.timeout r.uri.toString))
  else follow r.uri maxRedirects (prepared r)

end Wire
end Countersign
