import Countersign.Run.World

/-!
# Discovery of authorization servers

A server publishes its discovery document below its own URI.  A document that was read once is kept
and not fetched again; nothing is kept of a failure.

* `Discovery.location` — where the document lies;
* `Discovery.document` — the document of a server.
-/

namespace Countersign
namespace Discovery

open Program

/-- The path of the document below the server's own path. -/
def suffix : String := "/.well-known/uma2-configuration"

/-- A path without slashes at its end. -/
def trimSlashes (path : String) : String :=
  String.ofList (path.toList.reverse.dropWhile (· == '/')).reverse

/-- Where the document of a server lies: query and fragment of the server's URI do not count. -/
def location (server : Url) : Url :=
  (((server.withPath (trimSlashes server.path ++ suffix)).withoutQuery).withoutFragment)

def request (location : Url) : Request :=
  (Request.get location).withHeader "accept" "application/json"

/-- The document in an answer. -/
def read (server : Url) (r : Response) : Except UmaError Metadata :=
  if r.status != 200 then .error (.discovery server.toString (.status r.status))
  else
    match Metadata.parse? r.body with
    | some m => .ok m
    | none => .error (.discovery server.toString .malformed)

/-- The document of a server, from the store or from the server. -/
def document (server : Url) : Run (Except UmaError Metadata) := do
  let place := location server
  match ← perform (I := World) (.document place.toString) with
  | some m => return .ok m
  | none =>
    match ← perform (I := World) (.transmit (request place)) with
    | .error e => return .error (.transport e)
    | .ok r =>
      match read server r with
      | .error e => return .error e
      | .ok m =>
        perform (I := World) (.keepDocument place.toString m)
        return .ok m

end Discovery
end Countersign
