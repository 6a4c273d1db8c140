import Countersign.Header.Grammar
import Countersign.Text.Order

/-!
# Granted access modes

`WAC-Allow: user="read write", public="read"` lists, per audience, the modes that the server
grants on a resource.  All values of a response are read as one union.

* `Access` — the modes of each audience, audiences and modes ascending;
* `Access.parseAll` — the union of what all values say;
* `Access.display` — a written form that reads back.
-/

namespace Countersign

open Text Header

/-- The modes granted to each audience. -/
structure Access where
  grants : Table Names := .empty
  /-- No audience is listed without a mode. -/
  nonempty : ∀ g ∈ grants.entries, g.2.isEmpty = false := by
    exact Table.forall_empty (P := (Names.isEmpty · = false))
deriving DecidableEq, Repr

namespace Access

/-- Nothing is granted. -/
def empty : Access := {}

instance : Inhabited Access := ⟨empty⟩

/-- The modes granted to an audience, if it is listed. -/
def modes (a : Access) (audience : String) : Option Names := a.grants.find? audience

/-- Whether an audience has a mode, up to letter case. -/
def allows (a : Access) (audience mode : String) : Bool :=
  match a.modes audience with
  | none => false
  | some ms => ms.toList.any fun m => sameLetters m mode

/-- The listed audiences, ascending. -/
def audiences (a : Access) : List String := a.grants.names

def isEmpty (a : Access) : Bool := a.grants.isEmpty

/-- Adds the words of a mode list to an audience; a list without words adds nothing. -/
def grant (a : Access) (audience modeList : String) : Access :=
  match words modeList with
  | [] => a
  | m :: ms =>
    { grants := a.grants.alter audience fun held => (held.getD .empty).insertAll (m :: ms)
      nonempty :=
        Table.forall_alter (P := (Names.isEmpty · = false)) a.nonempty fun _ =>
          Names.isEmpty_eq_false (Names.mem_insertAll.2 (.inl List.mem_cons_self)) }

/-! ## Reading -/

/-- The parameter at the start of a text that begins with no separator, if it is well formed,
and the rest. -/
def element (s : List Char) : Option (List Char × List Char) × List Char :=
  match soleParam s with
  | some (p, r) => (some p, r)
  | none => (none, (skipUntil (· == ',') false s).2)

/-- An element that begins with no separator leaves a strictly shorter rest. -/
theorem element_length {c : Char} {t : List Char} (hc : isSeparator c = false) :
    (element (c :: t)).2.length < (c :: t).length := by
  unfold element
  split
  · rename_i h; exact soleParam_length h
  · refine skipUntil_length ?_
    simp only [isSeparator, Bool.or_eq_false_iff] at hc
    exact hc.1

set_option linter.unusedVariables false in
/-- The well-formed parameters of one value, in order. -/
def entries (s : List Char) : List (List Char × List Char) :=
  match hs : skipSeparators s with
  | [] => []
  | c :: r => (element (c :: r)).1.toList ++ entries (element (c :: r)).2
termination_by s.length
decreasing_by
  obtain ⟨hc, hle⟩ := skipSeparators_cons hs
  exact Nat.lt_of_lt_of_le (element_length hc) hle

/-- The header's own name with its colon, which some servers repeat in the value. -/
def ownName : List Char := "wac-allow:".toList

/-- A value without a leading own name and the blanks after it. -/
def dropOwnName (s : List Char) : List Char :=
  if (s.take ownName.length).map Char.toLower = ownName then
    trimStartChars (s.drop ownName.length)
  else s

/-- The well-formed parameters of a value as it was sent. -/
def valueEntries (value : String) : List (List Char × List Char) :=
  entries (dropOwnName (trimChars value.toList))

def parseAll (values : List String) : Access :=
  (values.flatMap valueEntries).foldl
    (fun a p => a.grant (String.ofList p.1) (String.ofList p.2)) empty

def parse (value : String) : Access := parseAll [value]

/-! ## Writing -/

/-- `audience="mode mode"`. -/
def displayGrant (g : String × Names) : List Char :=
  g.1.toList ++ '=' :: quoted ([' '].intercalate (g.2.toList.map String.toList))

/-- The grants, separated by commas. -/
def display (a : Access) : String :=
  String.ofList ([',', ' '].intercalate (a.grants.entries.map displayGrant))

end Access
end Countersign
