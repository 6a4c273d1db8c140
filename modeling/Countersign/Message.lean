import Countersign.Header.Access
import Countersign.Header.Challenge
import Countersign.Header.Link
import Countersign.Text.Utf8
import Countersign.Url.Parser

/-!
# Requests and responses

Both are plain values: they are changed freely and nobody looks into a body except the party
that it is meant for.

* `Method.isValid`, `Status.isValid`, `Headers.name?`, `Headers.isValue` — what may be sent;
* `Headers` — values grouped by name, names in the order of their first occurrence;
* `Request`, `Response` — the messages, with the header views of a response.
-/

namespace Countersign

open Text

/-- A method is a non-empty token; its letters count. -/
def Method.isValid (m : String) : Bool := !m.isEmpty && m.toList.all Header.isTokenChar

/-- A status has three digits. -/
def Status.isValid (n : Nat) : Bool := 100 ≤ n && n ≤ 999

def Status.isSuccess (n : Nat) : Bool := 200 ≤ n && n ≤ 299

/-- The header fields of a message: the values of each name in order. Names are in small
letters. -/
structure Headers where
  entries : List (String × List Bytes) := []
deriving DecidableEq, Repr, Inhabited

namespace Headers

/-- The name of a field in small letters, if the text can name one. -/
def name? (s : String) : Option String :=
  if !s.isEmpty && s.utf8ByteSize < 65536 && s.toList.all Header.isTokenChar then some (lower s)
  else none

/-- The octets that a value may hold: no controls other than tab. -/
def isValue (v : Bytes) : Bool := v.all fun b => b == 9 || (32 ≤ b && b != 127)

/-- The values of a name, in order. -/
def values (h : Headers) (name : String) : List Bytes := (h.entries.lookup name).getD []

/-- Whether a name has a value. -/
def contains (h : Headers) (name : String) : Bool := (h.entries.lookup name).isSome

/-- Adds a value behind those that the name already has. -/
def append (h : Headers) (name : String) (value : Bytes) : Headers :=
  if h.contains name then
    ⟨h.entries.map fun e => if e.1 = name then (e.1, e.2 ++ [value]) else e⟩
  else ⟨h.entries ++ [(name, [value])]⟩

/-- Puts one value in the place of all values of the name. -/
def set (h : Headers) (name : String) (value : Bytes) : Headers :=
  if h.contains name then
    ⟨h.entries.map fun e => if e.1 = name then (e.1, [value]) else e⟩
  else ⟨h.entries ++ [(name, [value])]⟩

def erase (h : Headers) (name : String) : Headers := ⟨h.entries.filter fun e => e.1 != name⟩

/-- All fields, one pair per value. -/
def pairs (h : Headers) : List (String × Bytes) :=
  h.entries.flatMap fun e => e.2.map fun v => (e.1, v)

def appendAll (h other : Headers) : Headers :=
  other.pairs.foldl (fun h p => h.append p.1 p.2) h

/-- The values of a name that are visible ASCII text, in order; others are passed over. -/
def texts (h : Headers) (name : String) : List String :=
  ((h.values name).filter fun v => v.all fun b => b == 9 || (32 ≤ b && b < 127)).map fun v =>
    String.ofList (v.map fun b => Char.ofNat b.toNat)

theorem lookup_cons_ite {α : Type} (key : String) (held : α) (l : List (String × α))
    (name : String) :
    ((key, held) :: l).lookup name = if name = key then some held else l.lookup name := by
  by_cases h : name = key
  · simp [h]
  · have hne : (name == key) = false := by simpa using h
    simp [List.lookup_cons, hne, h]

/-- Changing the values of each name changes what is found under a name. -/
theorem lookup_mapValues (f : String → List Bytes → List Bytes) (other : String)
    (l : List (String × List Bytes)) :
    (l.map fun e => (e.1, f e.1 e.2)).lookup other = (l.lookup other).map (f other) := by
  induction l with
  | nil => rfl
  | cons e l ih =>
      rcases e with ⟨key, held⟩
      rw [List.map_cons, lookup_cons_ite, lookup_cons_ite, ih]
      split
      · rename_i h
        rw [h]
        rfl
      · rfl

/-- Replacing the values of a name changes what is found under that name only. -/
theorem lookup_replace (name other : String) (vs : List Bytes) (l : List (String × List Bytes)) :
    (l.map fun e => if e.1 = name then (e.1, vs) else e).lookup other =
      if other = name then (l.lookup name).map fun _ => vs else l.lookup other := by
  have hmap : (fun e : String × List Bytes => if e.1 = name then (e.1, vs) else e) =
      fun e => (e.1, if e.1 = name then vs else e.2) := by
    funext e
    split <;> rfl
  rw [hmap, lookup_mapValues fun key held => if key = name then vs else held]
  by_cases hother : other = name
  · simp [hother]
  · simp [hother]

theorem lookup_set (h : Headers) (name other : String) (value : Bytes) :
    (h.set name value).entries.lookup other =
      if other = name then some [value] else h.entries.lookup other := by
  unfold set contains
  by_cases hname : (h.entries.lookup name).isSome
  · rw [if_pos hname, lookup_replace]
    rcases Option.isSome_iff_exists.1 hname with ⟨vs, hvs⟩
    simp [hvs]
  · rw [if_neg hname, List.lookup_append]
    have hnone : h.entries.lookup name = none := Option.not_isSome_iff_eq_none.1 hname
    by_cases ho : other = name
    · simp [ho, hnone]
    · simp [ho, lookup_cons_ite]

@[simp] theorem values_set_self (h : Headers) (name : String) (value : Bytes) :
    (h.set name value).values name = [value] := by
  simp [values, lookup_set]

theorem values_set_ne (h : Headers) {name other : String} (hne : other ≠ name) (value : Bytes) :
    (h.set name value).values other = h.values other := by
  simp [values, lookup_set, hne]

theorem contains_set (h : Headers) (name other : String) (value : Bytes) :
    (h.set name value).contains other = (other == name || h.contains other) := by
  by_cases ho : other = name <;> simp [contains, lookup_set, ho]

theorem contains_append (h : Headers) (name other : String) (value : Bytes) :
    (h.append name value).contains other = (other == name || h.contains other) := by
  unfold append contains
  by_cases hname : (h.entries.lookup name).isSome
  · have hmap : (fun e : String × List Bytes => if e.1 = name then (e.1, e.2 ++ [value]) else e) =
        fun e => (e.1, if e.1 = name then e.2 ++ [value] else e.2) := by
      funext e
      split <;> rfl
    rw [if_pos hname, hmap,
      lookup_mapValues fun key held => if key = name then held ++ [value] else held]
    by_cases ho : other = name
    · simp [ho, hname]
    · simp [ho]
  · rw [if_neg hname, List.lookup_append, lookup_cons_ite]
    by_cases ho : other = name
    · simp [ho]
    · simp [ho]

end Headers

structure Request where
  method : String
  uri : Url
  headers : Headers := {}
  body : Option Bytes := none
  /-- Seconds after which the request is given up. -/
  timeout : Option Nat := none
deriving DecidableEq, Repr, Inhabited

namespace Request

/-- A request without headers and body that reads a resource. -/
def get (uri : Url) : Request := { method := "GET", uri }

def withHeader (r : Request) (name value : String) : Request :=
  { r with headers := r.headers.append name (Utf8.encode value) }

/-- The request with one value in the place of all values of a field. -/
def setHeader (r : Request) (name value : String) : Request :=
  { r with headers := r.headers.set name (Utf8.encode value) }

end Request

/-- The answer to a request. -/
structure Response where
  /-- The URI that was answered. -/
  uri : Url
  status : Nat
  headers : Headers := {}
  body : Bytes := []
deriving DecidableEq, Repr, Inhabited

namespace Response

/-- The challenges of the answer, in server order. -/
def challenges (r : Response) : List Challenge :=
  Challenge.parseAll (r.headers.texts "www-authenticate")

/-- The access modes that the answer grants. -/
def access (r : Response) : Access := Access.parseAll (r.headers.texts "wac-allow")

/-- The links of the answer, in server order. -/
def links (r : Response) : List Link := Link.parseAll (r.headers.texts "link")

end Response

/-- The target of a link, resolved against the URI of the response that carries it. -/
def Link.resolve (l : Link) (base : Url) : Except UrlError Url := base.resolve l.target

end Countersign
