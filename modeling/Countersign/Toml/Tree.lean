import Countersign.Toml.Basic

/-!
# The tables of a document

A table can be described in several places, but each place only in one way: a header describes a table
once, and a dotted key describes tables that no header describes.  Tables that a header merely passes
through may still get a header of their own.  What stands in braces or brackets is complete.

* `Line`, `Key` — the lines of a document;
* `Origin` — how a table came to be;
* `Tree` — a document while it is read;
* `Tree.ofLines?` — the tree of all lines, unless two of them exclude each other.
-/

namespace Countersign
namespace Toml

/-- A key: the names of tables, and the last name. -/
structure Key where
  tables : List String
  last : String
deriving DecidableEq, Repr, Inhabited

/-- The key with given parts; there has to be one. -/
def Key.ofParts? (parts : List String) : Option Key :=
  parts.getLast?.map fun last => ⟨parts.dropLast, last⟩

inductive Line where
  /-- A key and its value. -/
  | entry (key : Key) (value : Toml)
  /-- The header of a table. -/
  | header (key : Key)
  /-- The header of one more table of a list. -/
  | rowHeader (key : Key)
deriving Repr, Inhabited

/-- How a table came to be. -/
inductive Origin where
  /-- By its own header, or as the document. -/
  | own
  /-- By a header that passes through it. -/
  | passed
  /-- By a dotted key. -/
  | dotted
deriving DecidableEq, Repr, Inhabited

/-- A part of a document while it is read. -/
inductive Tree where
  /-- A complete value. -/
  | value (v : Toml)
  | table (origin : Origin) (entries : List (String × Tree))
  /-- A list of tables, each with a header. -/
  | rows (tables : List (List (String × Tree)))
deriving Repr, Inhabited

namespace Tree

/-- Named parts. -/
abbrev Entries := List (String × Tree)

/-- The value that a part describes. -/
def toToml : Tree → Toml
  | value v => v
  | table _ entries => .table (ofEntries entries)
  | rows tables => .list (ofTables tables)
where
  /-- The values of named parts. -/
  ofEntries : List (String × Tree) → List (String × Toml)
    | [] => []
    | (name, t) :: r => (name, t.toToml) :: ofEntries r
  ofTables : List (List (String × Tree)) → List Toml
    | [] => []
    | es :: r => .table (ofEntries es) :: ofTables r

/-- Puts a part in the place of the one with the same name, or behind all others. -/
def put (name : String) (t : Tree) (entries : Entries) : Entries :=
  if (entries.lookup name).isSome then
    entries.map fun e => if e.1 == name then (name, t) else e
  else entries ++ [(name, t)]

/-- Changes the table that names lead to; tables that are not there yet are made. A dotted key must not
lead through tables that have a header. -/
def alter (byKey : Bool) (change : Origin → Entries → Option Entries) :
    List String → Origin → Entries → Option Entries
  | [], origin, entries => change origin entries
  | name :: names, _, entries =>
    match entries.lookup name with
    | none => do
      let origin := if byKey then Origin.dotted else .passed
      return put name (table origin (← alter byKey change names origin [])) entries
    | some (value _) => none
    | some (table origin es) =>
      if byKey && origin == .own then none
      else do return put name (table origin (← alter byKey change names origin es)) entries
    | some (rows tables) =>
      if byKey then none
      else
        -- a header leads into the latest table of a list
        match tables.getLast? with
        | none => none
        | some es => do
          let es ← alter byKey change names .own es
          return put name (rows (tables.dropLast ++ [es])) entries

/-- Adds an entry to a table; a table that dotted keys describe takes entries from dotted keys only. -/
def addEntry (byKey : Bool) (name : String) (v : Toml) (origin : Origin) (entries : Entries) :
    Option Entries :=
  if (origin == .dotted) != byKey || (entries.lookup name).isSome then none
  else some (put name (value v) entries)

/-- Gives a table a header of its own, if it has none yet. -/
def addHeader (name : String) (_ : Origin) (entries : Entries) : Option Entries :=
  match entries.lookup name with
  | none => some (put name (table .own []) entries)
  | some (table .passed es) => some (put name (table .own es) entries)
  | some _ => none

/-- Adds a table to a list of tables. -/
def addRow (name : String) (_ : Origin) (entries : Entries) : Option Entries :=
  match entries.lookup name with
  | none => some (put name (rows [[]]) entries)
  | some (rows tables) => some (put name (rows (tables ++ [[]])) entries)
  | some _ => none

/-- Adds a line; `at` are the names that lead to the table of the latest header. -/
def addLine (state : List String × Entries) (line : Line) : Option (List String × Entries) :=
  match line with
  | .entry key v =>
    -- the table of the header is reached first, the tables of the key lie inside it
    let byKey := !key.tables.isEmpty
    let change (origin : Origin) (es : Entries) : Option Entries :=
      alter true (addEntry byKey key.last v) key.tables origin es
    (alter false change state.1 .own state.2).map (state.1, ·)
  | .header key =>
    (alter false (addHeader key.last) key.tables .own state.2).map (key.tables ++ [key.last], ·)
  | .rowHeader key =>
    (alter false (addRow key.last) key.tables .own state.2).map (key.tables ++ [key.last], ·)

/-- The tree of all lines, unless two of them exclude each other. -/
def ofLines? (lines : List Line) : Option Tree :=
  (lines.foldlM addLine ([], [])).map fun state => table .own state.2

end Tree
end Toml
end Countersign
