import Countersign.Client.Exchange
import Countersign.Command.Outcome
import Countersign.Uma.Provider

/-!
# Running a command

A command reads its arguments and settings, begins a session, sends one request through a client for that
session and reports the answer.  Settings that cannot be loaded are replaced by the defaults, with a
warning; everything else that fails ends the command.

* `Environment` — what the command finds around it;
* `Command.session` — the session for the arguments;
* `Command.execute` — the answer to the request of the arguments;
* `Command.run` — the whole command.
-/

namespace Countersign

open Program Text

/-- What a command finds around it. -/
structure Environment where
  /-- Where the settings are. -/
  directory : String
  /-- The token that holds unless the arguments give one. -/
  token : Option String := none
deriving DecidableEq, Repr, Inhabited

namespace Command

/-- The number of the only session of a command. -/
def sessionNumber : SessionId := 0

def tokenOf (path : String) : Except FileFault Bytes → Except RunFault String
  | .error fault => .error (.tokenFile path (some fault))
  | .ok content =>
    match Utf8.decode? content with
    | some s => .ok s
    | none => .error (.tokenFile path none)

/-- The token that the arguments give, or that the file they name holds. -/
def token (a : Arguments) : Run (Except RunFault (Option String)) :=
  match a.idToken, a.idTokenFile with
  | some secret, _ => done (.ok (some (trim secret.text)))
  | none, some path => do
    let content ← perform (I := World) (.fileAt path)
    return (tokenOf path content).map fun s => some (trim s)
  | none, none => done (.ok none)

/-- Loads the keys that the arguments name, in order; the first fault counts. -/
def keys : List String → Run (Except RunFault (List ProofKey))
  | [] => done (.ok [])
  | word :: r =>
    match Target.keyFile word with
    | .error e => done (.error (.failed e))
    | .ok (algorithm, path) => do
      match ← ProofKey.load algorithm path with
      | .error e => return .error (.keyFile path e)
      | .ok key => return (← keys r).map (key :: ·)

/-- The session of a token: configured keys come before those of the arguments. -/
def identified (directory : String) (settings : Settings) (a : Arguments) (token : String) :
    Run (Except RunFault Session) := do
  match ← settings.openId.verification directory with
  | .error e => return .error (.verification e)
  | .ok verification =>
    match ← keys a.keyFiles with
    | .error e => return .error e
    | .ok added =>
      let verification := { verification with proofKeys := verification.proofKeys ++ added }
      return (← Session.ofToken sessionNumber settings.cache verification token).mapError
        RunFault.tokenRejected

/-- The session for the arguments: that of their token, or one without identity. -/
def session (directory : String) (settings : Settings) (a : Arguments) :
    Run (Except RunFault Session) := do
  match ← token a with
  | .error e => return .error e
  | .ok none => return .ok (← Session.anonymous sessionNumber settings.cache)
  | .ok (some t) => identified directory settings a t

/-- The answer to the request of the arguments. -/
def execute (directory : String) (settings : Settings) (a : Arguments) :
    Run (Except RunFault Response) := do
  match ← session directory settings a with
  | .error e => return .error e
  | .ok session =>
    let registry := Registry.standard settings.negotiation { rounds := settings.rounds }
    match a.request with
    | .error e => return .error (.failed e)
    | .ok request => return (← Client.send { session, registry } request).mapError RunFault.failed

def run (environment : Environment) (words : List String) : Run Outcome :=
  match Arguments.parse environment.token words with
  | .error fault => done (.ofUsage fault)
  | .ok a => do
    let loaded ← Settings.load environment.directory
    let settings := loaded.toOption.getD {}
    let outcome := match ← execute environment.directory settings a with
      | .error fault => Outcome.ofFault fault
      | .ok answer => .ofResponse a.showHeaders answer
    return match loaded with
      | .ok _ => outcome
      | .error fault => outcome.withWarning fault

end Command
end Countersign
