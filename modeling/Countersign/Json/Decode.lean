import Countersign.Json.Basic

/-!
# Records in JSON

A record is written as an object or as the list of its fields in order.  Unknown fields of an
object are ignored, a known field must not be repeated, and a list must not be longer than the
record.

* `Json.record?` — the values of a record's fields;
* `Json.string?`, `natural?`, `integer?`, `listOf?`, `choice?` — readers of single values;
* `Json.optional?`, `Json.orElse?` — fields that may be absent.
-/

namespace Countersign
namespace Json

/-- A field of a record: its name, and whether a list may end before it. -/
structure Field where
  name : String
  mayEnd : Bool

/-- A field that a list may leave out. -/
def Field.loose (name : String) : Field := ⟨name, true⟩

/-- A field that a list has to hold. -/
def Field.firm (name : String) : Field := ⟨name, false⟩

/-- The field names of an object, if all of them spell texts. -/
def keys? (fields : List (Option String × Json)) : Option (List String) :=
  fields.mapM Prod.fst

/-- The values of a record's fields in the record's order, absent ones as `none`. -/
def record? (spec : List Field) : Json → Option (List (Option Json))
  | .object fields =>
    match keys? fields with
    | none => none
    | some keys =>
      if spec.all fun f => keys.count f.name ≤ 1 then
        some (spec.map fun f => (fields.find? fun kv => kv.1 == some f.name).map Prod.snd)
      else none
  | .list items =>
    if items.length ≤ spec.length && (spec.drop items.length).all Field.mayEnd then
      some (items.map some ++ List.replicate (spec.length - items.length) none)
    else none
  | _ => none

def string? : Json → Option String
  | .text s => s
  | _ => none

/-- An integer of 64 bits without sign. -/
def natural? : Json → Option Nat
  | .integer n => if 0 ≤ n ∧ n < Nat.pow 2 64 then some n.toNat else none
  | _ => none

/-- An integer of 64 bits with sign. -/
def integer? : Json → Option Int
  | .integer n => if -(Nat.pow 2 63 : Int) ≤ n ∧ n < Nat.pow 2 63 then some n else none
  | _ => none

/-- A list of values of one kind. -/
def listOf? {α : Type} (read : Json → Option α) : Json → Option (List α)
  | .list items => items.mapM read
  | _ => none

/-- One of a few words, written as a string or as an object with that one field and no value. -/
def choice? (words : List String) : Json → Option String
  | .text (some s) => if words.contains s then some s else none
  | .object [(some s, .null)] => if words.contains s then some s else none
  | _ => none

def required? {α : Type} (read : Json → Option α) : Option Json → Option α
  | some j => read j
  | none => none

/-- A field that may be absent or null. -/
def optional? {α : Type} (read : Json → Option α) : Option Json → Option (Option α)
  | none => some none
  | some .null => some none
  | some j => (read j).map some

/-- A field that has a default when absent, but must not be null. -/
def orElse? {α : Type} (default : α) (read : Json → Option α) : Option Json → Option α
  | none => some default
  | some j => read j

end Json
end Countersign
