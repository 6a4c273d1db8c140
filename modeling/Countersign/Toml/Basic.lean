import Countersign.Text.Decimal
import Countersign.Text.Order

/-!
# TOML values

Settings are written in TOML.  A value is read for what the settings ask of it: of a decimal number and
of a moment only the literal is kept.

* `Toml` — the values;
* `Toml.fields?` — the values of a record's fields;
* `Toml.text?`, `natural?`, `textList?`, `textTable?` — readers of single values;
* `Toml.orElse?` — a field with a default.
-/

namespace Countersign

inductive Toml where
  | text (s : String)
  | integer (n : Int)
  /-- A number with a fraction or an exponent, or one that is no finite number. -/
  | decimal (literal : String)
  | boolean (b : Bool)
  /-- A date, a time of day, or both. -/
  | moment (literal : String)
  | list (items : List Toml)
  | table (entries : List (String × Toml))
deriving Repr, Inhabited

namespace Toml

/-- The name under which a moment stands, where it is taken for a table. -/
def momentField : String := "$__toml_private_datetime"

/-- The entries of a value that can be taken for a table. -/
def entries? : Toml → Option (List (String × Toml))
  | table entries => some entries
  | moment literal => some [(momentField, text literal)]
  | _ => none

/-- The values of a record's fields in the record's order, absent ones as `none`. A record may also be
given as a list of its values, which may be shorter or longer. -/
def fields? (names : List String) : Toml → Option (List (Option Toml))
  | list items => some ((List.range names.length).map fun i => items[i]?)
  | value => value.entries?.map fun entries => names.map fun name => entries.lookup name

def text? : Toml → Option String
  | text s => some s
  | _ => none

/-- A natural number of 64 bits. -/
def natural? : Toml → Option Nat
  | integer n => if 0 ≤ n ∧ n < Nat.pow 2 64 then some n.toNat else none
  | _ => none

def textList? : Toml → Option (List String)
  | list items => items.mapM text?
  | _ => none

def textTable? (value : Toml) : Option (Table String) := do
  let entries ← (← value.entries?).mapM fun e => (text? e.2).map (e.1, ·)
  return entries.foldl (fun t e => t.insert e.1 e.2) .empty

/-- A field that has a default when absent. -/
def orElse? {α : Type} (default : α) (read : Toml → Option α) : Option Toml → Option α
  | none => some default
  | some value => read value

end Toml
end Countersign
