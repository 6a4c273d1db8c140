import Countersign.Settings.Basic

/-!
# Settings in files

The settings stand in a file of a fixed name in a directory.  If there is no such file the defaults hold.
Proof keys have files of their own; a relative path starts at the same directory.

* `Settings.load` — the settings of a directory;
* `OpenIdSettings.verification` — what is asked of identity tokens, with the proof keys loaded.
-/

namespace Countersign

open Program

/-- A path that is relative to a directory, unless it is absolute. -/
def pathIn (directory path : String) : String :=
  if "/".isPrefixOf path then path
  else if directory.isEmpty || directory.toList.getLast? == some '/' then directory ++ path
  else directory ++ "/" ++ path

def ProofKey.load (a : ProofAlgorithm) (path : String) : Run (Except ProofError ProofKey) := do
  return ProofKey.ofFile a path (← perform (I := World) (.fileAt path))

namespace Settings

def fileName : String := "config.toml"

/-- The settings that the content of the file describes. -/
def ofFile : Except FileFault Bytes → Except SettingsFault Settings
  | .error fault => if fault.isAbsence then .ok {} else .error (.unreadable fault)
  | .ok content =>
    match Utf8.decode? content with
    | none => .error .noText
    | some document =>
      match parse? document with
      | none => .error .malformed
      | some settings => .ok settings

def load (directory : String) : Run (Except SettingsFault Settings) := do
  return ofFile (← perform (I := World) (.fileAt (pathIn directory fileName)))

end Settings

namespace OpenIdSettings

/-- Loads keys in ascending order of the names of their algorithms; the first fault counts. -/
def loadKeys (directory : String) :
    List (String × String) → Run (Except SettingsFault (List ProofKey))
  | [] => done (.ok [])
  | (name, path) :: r =>
    match ProofAlgorithm.ofName name with
    | .error e => done (.error (.proofKey name e))
    | .ok algorithm => do
      match ← ProofKey.load algorithm (pathIn directory path) with
      | .error e => return .error (.proofKey name e)
      | .ok key => return (← loadKeys directory r).map (key :: ·)

/-- What is asked of identity tokens, with the proof keys loaded. -/
def verification (s : OpenIdSettings) (directory : String) :
    Run (Except SettingsFault VerificationSettings) := do
  return (← loadKeys directory s.keyFiles.entries).map fun proofKeys =>
    { audience := s.audience, keyLocation := s.keyLocation, grace := s.grace, proofKeys }

end OpenIdSettings
end Countersign
