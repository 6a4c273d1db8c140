import Countersign.Client.Connection
import Countersign.Command.Execute
import Std.Async.DNS
import Std.Async.TCP
import Std.Async.Timer
import Std.Time.DateTime.Timestamp

/-!
# The command line

The command is a program that asks for requests, files, random octets and the clock.  This module
answers these questions from the system and writes the outcome.  Connections are plain: a server
that wants an encrypted one counts as unreachable.
-/

open Std.Async

namespace Countersign
namespace Terminal

/-! ## Files and the clock -/

def octets (a : ByteArray) : Bytes := a.toList

def fileFault : IO.Error → FileFault
  | .noFileOrDirectory _ _ _ => .notFound
  | .permissionDenied _ _ _ => .notPermitted
  | .inappropriateType _ code _ => if code == 21 then .isDirectory else .notDirectory
  | .noSuchThing _ _ _ => .notFound
  | .invalidArgument _ 36 _ => .nameTooLong
  | _ => .malformed

def load (path : String) : IO (Except FileFault Bytes) := do
  try
    return .ok (octets (← IO.FS.readBinFile path))
  catch e => return .error (fileFault e)

/-- Reads the clock. -/
def moment : IO Instant := do
  let t ← Std.Time.Timestamp.now
  return ⟨t.val.second.val, t.val.nano.val.toNat⟩

/-! ## Connections -/

/-- How many octets are taken from a connection at once. -/
def blockSize : UInt64 := 65536

/-- Everything that comes until the other side closes the connection. -/
partial def receive (socket : TCP.Socket.Client) (before : Bytes) : Async Bytes := do
  match ← socket.recv? blockSize with
  | none => return before
  | some block => receive socket (before ++ octets block)

def connect (host : String) (port : Nat) : Async TCP.Socket.Client := do
  let found ← DNS.getAddrInfo host (toString port)
  let some address := found[0]? | throw (IO.userError "no address")
  let socket ← TCP.Socket.Client.mk
  socket.connect (match address with
    | .v4 a => .v4 ⟨a, port.toUInt16⟩
    | .v6 a => .v6 ⟨a, port.toUInt16⟩)
  return socket

/-- Sends a request over a connection, and takes the answer. -/
def ask (socket : TCP.Socket.Client) (r : Request) : Async (Except WireFault Response) := do
  try
    socket.send (ByteArray.mk (Connection.encode r).toArray)
    match Connection.decode? r (← receive socket []) with
    | some answer => return .ok answer
    | none => return .error .broken
  catch _ => return .error .broken

/-- The connection to the server of a URL, if there can be one. -/
def open? (u : Url) : Async (Option TCP.Socket.Client) := do
  match u.scheme, u.authority with
  | "http", some a =>
    try
      return some (← connect a.host (a.port.getD 80))
    catch _ => return none
  | _, _ => return none

/-- Sends a request to the server of its URL, and takes the answer. -/
def converse (r : Request) : Async (Except WireFault Response) := do
  match ← open? r.uri with
  | some socket => ask socket r
  | none => return .error .unreachable

/-- As `converse`, within the time that the request allows. -/
def deliver (r : Request) : IO (Except WireFault Response) :=
  match r.timeout with
  | none => (converse r).block
  | some seconds =>
    let alarm : Async (Except WireFault Response) := do
      sleep (.ofNat (seconds * 1000))
      return .error .timedOut
    (Async.race (converse r) alarm).block

/-! ## The world -/

/-- The outside of the world as it is when an operation asks for it. -/
def outside (a : Act) : IO (Outside Unit) := do
  let now ← moment
  let sent ← match a with
    | .transmit r => (Wire.send none r).runIn (m := IO) fun r => deliver r
    | _ => pure (.error (.request ""))
  let random ← match a with
    | .entropy n => octets <$> IO.getRandomBytes n.toUSize
    | _ => pure []
  let file ← match a with
    | .fileAt path => load path
    | _ => pure (.error .notFound)
  return {
    transmit := fun _ w => (sent, w)
    clock := fun _ => now
    entropy := fun _ w => (random, w)
    freshToken := fun _ w => (.error (.refresh "no source of tokens"), w)
    note := fun _ w => w
    fileAt := fun _ _ => file }

/-- Runs a program in the world of the system. -/
def run {α : Type} (p : Run α) : IO α := do
  let store ← IO.mkRef ({} : Store)
  p.runIn (m := IO) fun a => do
    let o ← outside a
    let (answer, (after, _)) := o.step a (← store.get, ())
    store.set after
    return answer

/-- Where settings are looked for. -/
def directory : IO String := do
  match ← IO.getEnv "SOLID_AUTH_CONFIG_DIR", ← IO.getEnv "XDG_CONFIG_HOME", ← IO.getEnv "HOME" with
  | some dir, _, _ => return dir
  | none, some base, _ => return pathIn base "solid-auth"
  | none, none, some home => return pathIn home ".config/solid-auth"
  | none, none, none => return ".solid-auth"

end Terminal
end Countersign

open Countersign in
/-- Runs the command on its words. -/
def main (words : List String) : IO UInt32 := do
  let environment : Environment :=
    { directory := ← Terminal.directory, token := ← IO.getEnv "SOLID_ID_TOKEN" }
  let outcome ← Terminal.run (Command.run environment words)
  let output ← IO.getStdout
  output.write (ByteArray.mk outcome.output.toArray)
  output.flush
  for line in outcome.complaints do IO.eprintln line
  return outcome.status.code.toUInt32
