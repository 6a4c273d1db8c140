import Countersign.Command.Arguments
import Countersign.Settings.Files

/-!
# What a command ends in

A command ends with a status, with what it writes for its user and with complaints.  A complaint names
its causes from the outside in; a cause that only hands on what another one says is followed by that
one.

* `ExitStatus` — how a command ended;
* `RunFault` — why a command gave no answer, with `RunFault.message`;
* `Response.report` — an answer as it is shown;
* `Outcome` — the end of a command.
-/

namespace Countersign

/-! ## Status -/

/-- How a command ended. -/
inductive ExitStatus where
  | success
  | failure
  | interrupted
deriving DecidableEq, Repr, Inhabited

namespace ExitStatus

/-- The number that the caller of the command sees. -/
def code : ExitStatus → Nat
  | success => 0
  | failure => 1
  | interrupted => 130

/-- A command succeeds if the server reports success. -/
def ofStatus (status : Nat) : ExitStatus := if Status.isSuccess status then success else failure

end ExitStatus

def Status.reason? (status : Nat) : Option String :=
  reasons.lookup status
where
  /-- All statuses that have a reason. -/
  reasons : List (Nat × String) :=
    [(100, "Continue"), (101, "Switching Protocols"), (102, "Processing"), (103, "Early Hints"),
      (200, "OK"), (201, "Created"), (202, "Accepted"), (203, "Non Authoritative Information"),
      (204, "No Content"), (205, "Reset Content"), (206, "Partial Content"), (207, "Multi-Status"),
      (208, "Already Reported"), (226, "IM Used"), (300, "Multiple Choices"),
      (301, "Moved Permanently"), (302, "Found"), (303, "See Other"), (304, "Not Modified"),
      (305, "Use Proxy"), (307, "Temporary Redirect"), (308, "Permanent Redirect"),
      (400, "Bad Request"), (401, "Unauthorized"), (402, "Payment Required"), (403, "Forbidden"),
      (404, "Not Found"), (405, "Method Not Allowed"), (406, "Not Acceptable"),
      (407, "Proxy Authentication Required"), (408, "Request Timeout"), (409, "Conflict"),
      (410, "Gone"), (411, "Length Required"), (412, "Precondition Failed"),
      (413, "Payload Too Large"), (414, "URI Too Long"), (415, "Unsupported Media Type"),
      (416, "Range Not Satisfiable"), (417, "Expectation Failed"), (418, "I'm a teapot"),
      (421, "Misdirected Request"), (422, "Unprocessable Entity"), (423, "Locked"),
      (424, "Failed Dependency"), (425, "Too Early"), (426, "Upgrade Required"),
      (428, "Precondition Required"), (429, "Too Many Requests"),
      (431, "Request Header Fields Too Large"), (451, "Unavailable For Legal Reasons"),
      (500, "Internal Server Error"), (501, "Not Implemented"), (502, "Bad Gateway"),
      (503, "Service Unavailable"), (504, "Gateway Timeout"), (505, "HTTP Version Not Supported"),
      (506, "Variant Also Negotiates"), (507, "Insufficient Storage"), (508, "Loop Detected"),
      (510, "Not Extended"), (511, "Network Authentication Required")]

/-! ## Complaints -/

/-- What stands behind a failure to make a proof. -/
def ProofError.causes : ProofError → List String
  | unreadable _ fault => fault.message?.toList
  | _ => []

/-- What stands behind a failure of authentication. -/
def AuthError.causes : AuthError → List String
  | uma (.proof e) => (UmaError.proof e).message :: e.causes
  | uma e => [e.message]
  | proof e => e.message :: e.causes
  | transport e => [e.message]
  | _ => []

/-- What stands behind a reported failure. -/
def Failure.causes : Failure → List String
  | transport e => [e.message]
  | auth e => e.message :: e.causes
  | proof e => e.message :: e.causes
  | url e => [e.message]
  | settings _ | argument _ => []

/-- Why a command gave no answer. -/
inductive RunFault where
  /-- The file with the token cannot be read; there is no fault of the file if it is no text. -/
  | tokenFile (path : String) (fault : Option FileFault)
  /-- A configured proof key cannot be used. -/
  | verification (cause : SettingsFault)
  /-- A proof key from the arguments cannot be used. -/
  | keyFile (path : String) (cause : ProofError)
  | tokenRejected (cause : AuthError)
  | failed (cause : Failure)
deriving DecidableEq, Repr, Inhabited

namespace RunFault

/-- The fault and its causes, from the outside in. -/
def chain : RunFault → List String
  | tokenFile path fault =>
    ["failed to read ID token from " ++ path,
      ((fault.bind FileFault.message?).getD "stream did not contain valid UTF-8")]
  | verification cause => ["invalid [openid] configuration", (Failure.settings cause).message]
  | keyFile path cause => ("failed to load DPoP key " ++ path) :: cause.message :: cause.causes
  | tokenRejected cause => "ID token rejected" :: cause.message :: cause.causes
  | failed cause => cause.message :: cause.causes

def message (f : RunFault) : String := ": ".intercalate f.chain

end RunFault

/-! ## Answers -/

/-- A line of text as octets. -/
def lineOf (s : String) : Bytes := Utf8.encode (s ++ "\n")

namespace Response

/-- The first line of a report. -/
def statusLine (r : Response) : String :=
  "HTTP " ++ toString r.status ++ " " ++ (Status.reason? r.status).getD "<unknown status code>"

/-- The header fields, and what they say of access, links and challenges. -/
def headerLines (r : Response) : List String :=
  (r.headers.pairs.map fun f => f.1 ++ ": " ++ Utf8.decodeLossy f.2) ++
  (r.access.grants.entries.map fun g => "# access " ++ g.1 ++ ": " ++ " ".intercalate g.2.toList) ++
  (r.links.map fun l => "# link " ++ (l.parameter "rel").getD "-" ++ " " ++ targetOf l) ++
  (r.challenges.map fun c => "# challenge " ++ c.display) ++ [""]
where
  /-- The target of a link, resolved if it can be. -/
  targetOf (l : Link) : String :=
    match l.resolve r.uri with
    | .ok u => u.toString
    | .error _ => l.target

/-- An answer as it is shown: the status, on demand the header fields, and the body, which ends its last
line. -/
def report (r : Response) (showHeaders : Bool) : Bytes :=
  lineOf r.statusLine ++ (if showHeaders then r.headerLines.flatMap lineOf else []) ++ r.body ++
    (if r.body.isEmpty || r.body.getLast? == some 0x0A then [] else [0x0A])

end Response

/-- The end of a command. -/
structure Outcome where
  status : ExitStatus
  output : Bytes := []
  /-- Lines for the user that are no output. -/
  complaints : List String := []
deriving DecidableEq, Repr, Inhabited

namespace Outcome

/-- How the command calls itself. -/
def name : String := "solid-auth"

/-- The text that explains the arguments. -/
def help : String :=
  "Usage: " ++ name ++ " [OPTIONS] [METHOD] URL\n\n" ++
  "  -H, --header <NAME: VALUE>   request header, repeatable\n" ++
  "  -d, --data <BODY>            request body\n" ++
  "      --id-token <TOKEN>       ID token of the user, also from SOLID_ID_TOKEN\n" ++
  "      --id-token-file <PATH>   file holding the ID token\n" ++
  "      --dpop-key <ALG=PEM>     proof key, repeatable\n" ++
  "      --timeout <SECONDS>      request timeout\n" ++
  "      --show-headers           show what the response headers say\n" ++
  "  -v, --verbose                more log output, repeatable\n" ++
  "      --log-format <FORMAT>    text or json\n" ++
  "  -h, --help                   this text\n" ++
  "  -V, --version                the version"

def version : String := name ++ " 0.1.0"

/-- What a fault in the arguments ends in. -/
def ofUsage : UsageFault → Outcome
  | .help => { status := .success, output := lineOf help }
  | .version => { status := .success, output := lineOf version }
  | .unknownArgument => complaint "unknown argument"
  | .invalidValue => complaint "a value is missing or not among the possible ones"
  | .unreadableValue => complaint "a value cannot be read"
  | .tooManyValues => complaint "too many values"
  | .conflict => complaint "an argument is repeated or excludes another one"
  | .missingArgument => complaint "the URL is missing"
where
  /-- A complaint about the arguments. -/
  complaint (text : String) : Outcome := { status := .failure, complaints := ["error: " ++ text] }

def ofFault (f : RunFault) : Outcome :=
  { status := .failure, complaints := [name ++ ": error: " ++ f.message] }

/-- What an answer ends in. -/
def ofResponse (showHeaders : Bool) (r : Response) : Outcome :=
  { status := .ofStatus r.status, output := r.report showHeaders }

/-- A warning in front of all complaints. -/
def withWarning (o : Outcome) (fault : SettingsFault) : Outcome :=
  { o with complaints :=
      ("Warning: Failed to load config: " ++ (Failure.settings fault).message) :: o.complaints }

end Outcome
end Countersign
