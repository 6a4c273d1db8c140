import Countersign.Command.Target

/-!
# The arguments of the command

Arguments are read from left to right.  An option takes its value from its own word or from the
next one; until the value is there the option is pending, and it is judged only when the next
option, a run of plain words or the end settles it.  So of two faults the one that is settled
first is reported.

* `Flag` — the options, with their spellings;
* `Arguments` — what the arguments say;
* `UsageFault` — why they say nothing, or what is to be shown instead of a run;
* `Arguments.parse` — the arguments of a list of words;
* `Arguments.request` — the request that they describe.
-/

namespace Countersign

open Text

/-! ## Options -/

/-- A text that must not be shown. -/
structure Secret where
  text : String
deriving DecidableEq, Repr, Inhabited

/-- What is shown in the place of a secret; that there is none may be seen. -/
def Secret.redacted : Option Secret → String
  | none => "None"
  | some s => "Some(SecretString(\"" ++ (if s.text.isEmpty then "" else "[REDACTED]") ++ "\"))"

inductive LogFormat where
  | text
  | json
deriving DecidableEq, Repr, Inhabited

namespace LogFormat

def name : LogFormat → String
  | text => "text"
  | json => "json"

def ofName? (s : String) : Option LogFormat := [text, json].find? fun f => f.name == s

end LogFormat

/-- An option. -/
inductive Flag where
  | header
  | data
  | idToken
  | idTokenFile
  | keyFile
  | timeout
  | showHeaders
  | verbose
  | logFormat
  | help
  | version
deriving DecidableEq, Repr, Inhabited

namespace Flag

def all : List Flag :=
  [header, data, idToken, idTokenFile, keyFile, timeout, showHeaders, verbose, logFormat, help,
    version]

/-- The spelling behind two hyphens. -/
def long : Flag → String
  | header => "header"
  | data => "data"
  | idToken => "id-token"
  | idTokenFile => "id-token-file"
  | keyFile => "dpop-key"
  | timeout => "timeout"
  | showHeaders => "show-headers"
  | verbose => "verbose"
  | logFormat => "log-format"
  | help => "help"
  | version => "version"

/-- The letter behind one hyphen. -/
def short? : Flag → Option Char
  | header => some 'H'
  | data => some 'd'
  | verbose => some 'v'
  | help => some 'h'
  | version => some 'V'
  | _ => none

/-- Whether the option has a value. -/
def takesValue : Flag → Bool
  | showHeaders | verbose | help | version => false
  | _ => true

def ofLong? (s : String) : Option Flag := all.find? fun f => f.long == s

def ofShort? (c : Char) : Option Flag := all.find? fun f => f.short? == some c

end Flag

/-! ## What arguments say -/

structure Arguments where
  /-- An optional method, and the URL. -/
  words : List String := []
  headers : List String := []
  data : Option String := none
  idToken : Option Secret := none
  idTokenFile : Option String := none
  keyFiles : List String := []
  /-- Seconds that the request may take. -/
  timeout : Option Nat := none
  showHeaders : Bool := false
  verbosity : Nat := 0
  logFormat : Option LogFormat := none
deriving DecidableEq, Repr, Inhabited

/-- Why there is no run. -/
inductive UsageFault where
  /-- The help text is asked for. -/
  | help
  /-- The version is asked for. -/
  | version
  /-- No such option. -/
  | unknownArgument
  /-- A value is missing, or is none of the possible values. -/
  | invalidValue
  /-- A value cannot be read. -/
  | unreadableValue
  /-- More values than the argument takes. -/
  | tooManyValues
  /-- An argument is repeated, or given together with another that excludes it. -/
  | conflict
  /-- The URL is missing. -/
  | missingArgument
deriving DecidableEq, Repr, Inhabited

/-- Whether something is shown at the user's wish. -/
def UsageFault.isWish : UsageFault → Bool
  | help | version => true
  | _ => false

/-! ## Values -/

/-- A number of at most 64 bits in decimal digits; a plus sign may stand in front. -/
def natural64? (s : String) : Option Nat :=
  let digits := match s.toList with
    | '+' :: r => r
    | cs => cs
  if digits.isEmpty || !digits.all Char.isDigit then none
  else
    let n := digits.foldl (fun n c => n * 10 + (c.toNat - '0'.toNat)) 0
    if n < Nat.pow 2 64 then some n else none

namespace Arguments

/-- How many words a run of plain words may have. -/
def maxWords : Nat := 2

/-- The largest count of `-v`. -/
def maxVerbosity : Nat := 255

/-- The single value of an option, unless it has one already. -/
def once {α : Type} (old : Option α) (new : Except UsageFault α) : Except UsageFault (Option α) :=
  if old.isSome then .error .conflict else new.map some

/-- With a run of plain words. -/
def withWords (a : Arguments) (words : List String) : Except UsageFault Arguments :=
  if words.length ≤ maxWords then .ok { a with words := a.words ++ words }
  else .error .tooManyValues

def withValue (a : Arguments) (f : Flag) (v : String) : Except UsageFault Arguments :=
  match f with
  | .header => .ok { a with headers := a.headers ++ [v] }
  | .data => return { a with data := ← once a.data (.ok v) }
  | .idToken => return { a with idToken := ← once a.idToken (.ok ⟨v⟩) }
  | .idTokenFile => return { a with idTokenFile := ← once a.idTokenFile (pathOf v) }
  | .keyFile => .ok { a with keyFiles := a.keyFiles ++ [v] }
  | .timeout => return { a with timeout := ← once a.timeout (secondsOf v) }
  | .logFormat => return { a with logFormat := ← once a.logFormat (formatOf v) }
  | _ => .ok a
where
  /-- A path is not empty. -/
  pathOf (v : String) : Except UsageFault String :=
    if v.isEmpty then .error .invalidValue else .ok v
  secondsOf (v : String) : Except UsageFault Nat :=
    match natural64? v with
    | some n => .ok n
    | none => .error .unreadableValue
  formatOf (v : String) : Except UsageFault LogFormat :=
    match LogFormat.ofName? v with
    | some f => .ok f
    | none => .error .invalidValue

/-- With an option that has no value. -/
def withFlag (a : Arguments) : Flag → Except UsageFault Arguments
  | .showHeaders =>
    if a.showHeaders then .error .conflict else .ok { a with showHeaders := true }
  | .verbose => .ok { a with verbosity := min (a.verbosity + 1) maxVerbosity }
  | .help => .error .help
  | .version => .error .version
  | _ => .ok a

end Arguments

/-! ## Reading -/

/-- What is not settled yet. -/
inductive Pending where
  | nothing
  /-- An option, and its value if it is there. -/
  | option (f : Flag) (value : Option String)
  /-- A run of plain words. -/
  | words (ws : List String)
deriving DecidableEq, Repr, Inhabited

/-- The state between two words. -/
structure Scan where
  arguments : Arguments := {}
  pending : Pending := .nothing
  /-- Whether options have ended. -/
  plainOnly : Bool := false
deriving DecidableEq, Repr, Inhabited

namespace Scan

/-- Judges what is pending. -/
def settle (s : Scan) : Except UsageFault Scan :=
  match s.pending with
  | .nothing => .ok s
  | .option _ none => .error .invalidValue
  | .option f (some v) => do
    return { s with arguments := ← s.arguments.withValue f v, pending := .nothing }
  | .words ws => do
    return { s with arguments := ← s.arguments.withWords ws, pending := .nothing }

/-- Takes an option without value. -/
def flag (s : Scan) (f : Flag) : Except UsageFault Scan := do
  let s ← s.settle
  return { s with arguments := ← s.arguments.withFlag f }

/-- Takes an option that has a value, perhaps with its value. -/
def option (s : Scan) (f : Flag) (value : Option String) : Except UsageFault Scan := do
  let s ← s.settle
  match value with
  | some v => return { s with arguments := ← s.arguments.withValue f v }
  | none => return { s with pending := .option f none }

def plain (s : Scan) (word : String) : Except UsageFault Scan :=
  match s.pending with
  | .words ws => .ok { s with pending := .words (ws ++ [word]) }
  | _ => do
    let s ← s.settle
    return { s with pending := .words [word] }

def long (s : Scan) (spelling : List Char) : Except UsageFault Scan :=
  let name := String.ofList (spelling.takeWhile (· != '='))
  let attached := match spelling.dropWhile (· != '=') with
    | [] => none
    | _ :: v => some (String.ofList v)
  match Flag.ofLong? name with
  | none => .error .unknownArgument
  | some f =>
    if f.takesValue then s.option f attached
    else if attached.isSome then .error .tooManyValues
    else s.flag f

/-- Takes a cluster of letters; the first that has a value takes the rest of the cluster. -/
def shorts (s : Scan) : List Char → Except UsageFault Scan
  | [] => .ok s
  | c :: r =>
    match Flag.ofShort? c with
    | none => .error .unknownArgument
    | some f =>
      if f.takesValue then
        match r with
        | [] => s.option f none
        -- one sign between letter and value does not count
        | '=' :: v => s.option f (some (String.ofList v))
        | v => s.option f (some (String.ofList v))
      else do
        let s ← s.flag f
        shorts s r

/-- Takes a word that is neither option nor end of options. -/
def other (s : Scan) (word : String) : Except UsageFault Scan :=
  match s.pending with
  | .option f none => .ok { s with pending := .option f (some word) }
  | _ => s.plain word

/-- Takes the next word. -/
def step (s : Scan) (word : String) : Except UsageFault Scan :=
  if s.plainOnly then s.plain word
  else
    match word.toList with
    -- what is pending stays pending: the next plain word may still be its value
    | ['-', '-'] => .ok { s with plainOnly := true }
    | '-' :: '-' :: spelling => s.long spelling
    | ['-'] => s.other word
    | '-' :: cluster => s.shorts cluster
    | _ => s.other word

end Scan

namespace Arguments

/-- The token from the environment, unless one is among the arguments. -/
def withDefaultToken (a : Arguments) (token : Option String) : Arguments :=
  if a.idToken.isSome then a else { a with idToken := token.map Secret.mk }

/-- What has to hold of the arguments as a whole. -/
def check (a : Arguments) : Except UsageFault Arguments :=
  if a.idToken.isSome && a.idTokenFile.isSome then .error .conflict
  else if a.words.isEmpty then .error .missingArgument
  else .ok a

/-- The arguments that words say, with the token that the environment holds. -/
def parse (environment : Option String) (words : List String) : Except UsageFault Arguments := do
  let s ← words.foldlM Scan.step {}
  (((← s.settle).arguments).withDefaultToken environment).check

/-- The names of the log's levels by verbosity. -/
def level (a : Arguments) : String :=
  match a.verbosity with
  | 0 => "warn"
  | 1 => "debug"
  | _ => "trace"

def request (a : Arguments) : Except Failure Request := do
  let target ← Target.ofWords a.words
  let fields ← a.headers.mapM Target.field
  return {
    method := target.method
    uri := target.url
    headers := fields.foldl (fun h f => h.append f.1 f.2) {}
    body := a.data.map Utf8.encode
    timeout := a.timeout }

end Arguments
end Countersign
