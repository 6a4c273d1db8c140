import Countersign.Text.Decimal

/-!
# JSON values

Documents of authorization servers and the parts of a token are JSON.  A value keeps the order of
its fields and the literal of a number that is no integer.  A string whose escapes or octets spell
no text is kept as such: it spoils the document only where its text is asked for.

* `Json` — the values;
* `Json.isSoundAt` — whether all strings in a value are texts and all numbers finite.
-/

namespace Countersign

inductive Json where
  | null
  | bool (b : Bool)
  /-- A number written without fraction and exponent; a negative zero is a `decimal`. -/
  | integer (n : Int)
  /-- Any other number, by its literal. -/
  | decimal (literal : String)
  /-- A string; `none` if it spells no text. -/
  | text (s : Option String)
  | list (items : List Json)
  | object (fields : List (Option String × Json))
deriving Repr, Inhabited

namespace Json

def string (s : String) : Json := .text (some s)

/-- An object value. -/
def ofFields (fields : List (String × Json)) : Json :=
  .object (fields.map fun f => (some f.1, f.2))

/-- How deep lists and objects may be nested in what is read as a whole before it is looked at. -/
def maxDepth : Nat := 127

/-- Whether the double nearest to a number is finite. -/
def isFinite : Json → Bool
  | .integer n => n.natAbs < Decimal.limit
  | .decimal literal => (Decimal.ofLiteral literal.toList).fits
  | _ => true

/-- Whether every string in a value, names of fields included, spells a text, every number is finite, and
lists and objects are nested at most `limit` deep. -/
def isSoundAt : Nat → Json → Bool
  | _, .text s => s.isSome
  | _, .integer n => isFinite (.integer n)
  | _, .decimal literal => isFinite (.decimal literal)
  | limit + 1, .list items => soundItems limit items
  | limit + 1, .object fields => soundFields limit fields
  | 0, .list _ => false
  | 0, .object _ => false
  | _, _ => true
where
  soundItems (limit : Nat) : List Json → Bool
    | [] => true
    | j :: js => isSoundAt limit j && soundItems limit js
  soundFields (limit : Nat) : List (Option String × Json) → Bool
    | [] => true
    | (k, j) :: fs => k.isSome && isSoundAt limit j && soundFields limit fs

end Json
end Countersign
