import Countersign.Url.Idna.Domain
import Countersign.Url.Percent

/-!
# Hosts

Under the special schemes a host is an IPv6 address between brackets, an IPv4 address in any of
its historic spellings, or a domain; a domain is mapped to small letters and to its ASCII form.
Under other schemes a host is kept as it is written.

* `UrlError` — why a text is not a URL;
* `Host.parse` — the host of a special scheme, in its one written form;
* `Host.parseForeign` — the host of any other scheme.
-/

namespace Countersign

open Text

/-- Why a text is not a URL. -/
inductive UrlError where
  | emptyHost
  | invalidInternationalName
  | invalidPort
  | invalidIpv4
  | invalidIpv6
  | invalidDomainCharacter
  | relativeWithoutBase
  | relativeToFixedBase
deriving DecidableEq, Repr, Inhabited

namespace UrlError

def message : UrlError → String
  | emptyHost => "empty host"
  | invalidInternationalName => "invalid international domain name"
  | invalidPort => "invalid port number"
  | invalidIpv4 => "invalid IPv4 address"
  | invalidIpv6 => "invalid IPv6 address"
  | invalidDomainCharacter => "invalid domain character"
  | relativeWithoutBase => "relative URL without a base"
  | relativeToFixedBase => "relative URL with a cannot-be-a-base base"

end UrlError

namespace Host

/-- The parts of a text between occurrences of a character. -/
def splitOn (sep : Char) (cs : List Char) : List (List Char) :=
  cs.foldr (fun c parts =>
    if c == sep then [] :: parts
    else match parts with
      | [] => [[c]]
      | p :: ps => (c :: p) :: ps) [[]]

/-! ## IPv4 -/

/-- The value of digits in a base, if they all are digits of it. -/
def numberIn (base : Nat) (cs : List Char) : Option Nat :=
  cs.foldl (fun acc c =>
    match acc, hexValue? c with
    | some n, some d => if d < base then some (n * base + d) else none
    | _, _ => none) (some 0)

/-- One number of an IPv4 address: hexadecimal after `0x`, octal after `0`, else decimal. -/
def ipv4Number (cs : List Char) : Option Nat :=
  match cs with
  | [] => none
  | '0' :: 'x' :: r => numberIn 16 r
  | '0' :: 'X' :: r => numberIn 16 r
  | '0' :: c :: r => numberIn 8 (c :: r)
  | _ => numberIn 10 cs

/-- Whether the last label of a domain, one empty label aside, makes it an address. -/
def endsInNumber (domain : List Char) : Bool :=
  let isNumber (l : List Char) : Bool :=
    (!l.isEmpty && l.all Char.isDigit) || (ipv4Number l).isSome
  match (splitOn '.' domain).reverse with
  | [] => false
  | [l] => isNumber l
  | [] :: l :: _ => isNumber l
  | l :: _ => isNumber l

/-- The parts without one empty last part. -/
def dropEmptyLast (parts : List (List Char)) : List (List Char) :=
  match parts.reverse with
  | [] :: r => r.reverse
  | _ => parts

/-- The value of an IPv4 address: up to three bytes, and a last number for the rest. -/
def ipv4Value (domain : List Char) : Option Nat := do
  let parts := dropEmptyLast (splitOn '.' domain)
  if parts.length > 4 then none
  let numbers ← parts.mapM fun p => (ipv4Number p).filter (· < 4294967296)
  match numbers.reverse with
  | [] => none
  | last :: front =>
    if last ≥ Nat.pow 256 (4 - front.length) then none
    else if front.any (· > 255) then none
    else some (front.reverse.zipIdx.foldl (fun n p => n + p.1 * Nat.pow 256 (3 - p.2)) last)

def decimal (n : Nat) : List Char := Nat.toDigits 10 n

/-- The dotted form of an IPv4 value. -/
def showIpv4 (n : Nat) : List Char :=
  ['.'].intercalate [decimal (n / 16777216 % 256), decimal (n / 65536 % 256),
    decimal (n / 256 % 256), decimal (n % 256)]

/-! ## IPv6 -/

/-- Up to four hexadecimal digits: their value, their number, and the rest. -/
def hexGroup : Nat → List Char → Nat × Nat × List Char
  | 0, cs => (0, 0, cs)
  | fuel + 1, c :: r =>
    match hexValue? c with
    | some d =>
      let (v, k, rest) := hexGroup fuel r
      (d * Nat.pow 16 k + v, k + 1, rest)
    | none => (0, 0, c :: r)
  | _ + 1, [] => (0, 0, [])

/-- A decimal byte without leading zero. -/
def decimalByte (cs : List Char) : Option Nat :=
  match cs with
  | [] => none
  | '0' :: _ :: _ => none
  | _ =>
    if cs.all Char.isDigit && cs.length ≤ 3 then (numberIn 10 cs).filter (· ≤ 255) else none

/-- The two groups of an IPv4 address at the end of an IPv6 address. -/
def embeddedIpv4 (cs : List Char) : Option (List Nat) :=
  match (splitOn '.' cs).mapM decimalByte with
  | some [a, b, c, d] => some [a * 256 + b, c * 256 + d]
  | _ => none

/-- The groups read so far, last first, and where a double colon stood. -/
structure Groups where
  read : List Nat := []
  gap : Option Nat := none

/-- Reads groups to the end of the address. -/
def ipv6Groups : Nat → Groups → List Char → Option Groups
  | _, g, [] => some g
  | 0, _, _ :: _ => none
  | fuel + 1, g, c :: r =>
    if g.read.length ≥ 8 then none
    else if c = ':' then
      if g.gap.isSome then none
      else ipv6Groups fuel ⟨0 :: g.read, some (g.read.length + 1)⟩ r
    else
      match hexGroup 4 (c :: r) with
      | (v, _, []) => ipv6Groups fuel { g with read := v :: g.read } []
      | (v, k, '.' :: _) =>
        if k = 0 || g.read.length > 6 || v > 0xFFFF then none
        else (embeddedIpv4 (c :: r)).map fun gs => { g with read := gs.reverse ++ g.read }
      | (v, _, ':' :: d :: rest) => ipv6Groups fuel { g with read := v :: g.read } (d :: rest)
      | _ => none

/-- The eight groups of an IPv6 address. -/
def ipv6Value (cs : List Char) : Option (List Nat) := do
  if cs.length < 2 then none
  let g ← match cs with
    | ':' :: ':' :: r => ipv6Groups cs.length ⟨[0], some 1⟩ r
    | ':' :: _ => none
    | _ => ipv6Groups cs.length {} cs
  let read := g.read.reverse
  match g.gap with
  | none => if read.length = 8 then some read else none
  | some k =>
    if read.length > 8 then none
    else some (read.take k ++ List.replicate (8 - read.length) 0 ++ read.drop k)

/-- The start and the end of the first longest run of at least two zero groups. -/
def longestZeros (groups : List Nat) : Option (Nat × Nat) :=
  let runs := (List.range 8).map fun i => (i, ((groups.drop i).takeWhile (· == 0)).length)
  match runs.foldl (fun best r => if r.2 > best.2 then r else best) (0, 1) with
  | (i, k) => if k ≥ 2 then some (i, i + k) else none

def hexadecimal (n : Nat) : List Char := Nat.toDigits 16 n

/-- The written form of eight groups, with the longest run of zeros left out. -/
def showIpv6 (groups : List Nat) : List Char :=
  let join (gs : List Nat) : List Char := [':'].intercalate (gs.map hexadecimal)
  match longestZeros groups with
  | none => join groups
  | some (i, j) => join (groups.take i) ++ [':', ':'] ++ join (groups.drop j)

/-! ## Domains -/

/-- A character that no domain holds after mapping. -/
def isForbiddenInDomain (c : Char) : Bool :=
  c.toNat ≤ 0x20 || c.toNat == 0x7F ||
    ['%', '#', '/', ':', '<', '>', '?', '@', '[', '\\', ']', '^', '|'].contains c

/-- The ASCII form of a domain, unless a character in it is forbidden. -/
def domainToAscii (bytes : Bytes) : Option (List Char) :=
  (Idna.domainToAscii bytes).filter fun domain => !domain.any isForbiddenInDomain

/-! ## Reading a host -/

/-- The address between brackets, or `none` when the text does not start with one. -/
def bracketed (cs : List Char) : Option (Except UrlError String) :=
  match cs with
  | '[' :: r =>
    match r.reverse with
    | ']' :: inner =>
      match ipv6Value inner.reverse with
      | some gs => some (.ok (String.ofList ('[' :: showIpv6 gs ++ [']'])))
      | none => some (.error .invalidIpv6)
    | _ => some (.error .invalidIpv6)
  | _ => none

/-- The written form of a host under a special scheme. -/
def parse (cs : List Char) : Except UrlError String :=
  match bracketed cs with
  | some result => result
  | none =>
    match domainToAscii (Percent.decode cs) with
    | none => .error .invalidInternationalName
    | some [] => .error .emptyHost
    | some domain =>
      if endsInNumber domain then
        match ipv4Value domain with
        | some n => .ok (String.ofList (showIpv4 n))
        | none => .error .invalidIpv4
      else .ok (String.ofList domain)

/-- A character that no host under another scheme holds. -/
def isForbiddenInForeign (c : Char) : Bool :=
  [Char.ofNat 0, '\t', '\n', '\r', ' ', '#', '/', ':', '<', '>', '?', '@', '[', '\\', ']', '^',
    '|'].contains c

/-- The written form of a host under a scheme that is not special. -/
def parseForeign (cs : List Char) : Except UrlError String :=
  match bracketed cs with
  | some result => result
  | none =>
    if cs.any isForbiddenInForeign then .error .invalidDomainCharacter
    else .ok (String.ofList (Percent.encode Percent.controls cs))

end Host
end Countersign
