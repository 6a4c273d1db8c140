import Countersign.Keys.ProofKey
import Countersign.Text.Order

/-!
# The table of proof keys

A client holds at most one proof key per algorithm.  A later key takes the place of an earlier one
of its algorithm.

* `Keyring` — the table;
* `Keyring.ofKeys` — the table of a list of keys;
* `Keyring.algorithms`, `key?`, `thumbprint?`, `algorithm?` — what is in it.
-/

namespace Countersign

/-- The proof keys in use, at most one per algorithm, in the order in which the algorithms were
first given. -/
structure Keyring where
  keys : List ProofKey := []
deriving DecidableEq, Repr, Inhabited

namespace Keyring

/-- Puts a key in the place of the one of its algorithm, or at the end. -/
def insert (r : Keyring) (k : ProofKey) : Keyring :=
  if r.keys.any fun o => o.algorithm == k.algorithm then
    ⟨r.keys.map fun o => if o.algorithm = k.algorithm then k else o⟩
  else ⟨r.keys ++ [k]⟩

def ofKeys (keys : List ProofKey) : Keyring := keys.foldl insert {}

def algorithms (r : Keyring) : Names := Names.ofList (r.keys.map fun k => k.algorithm.name)

/-- The key of an algorithm; letters of the name count. -/
def key? (r : Keyring) (algorithm : String) : Option ProofKey :=
  r.keys.find? fun k => k.algorithm.name == algorithm

def thumbprint? (r : Keyring) (algorithm : String) : Option String :=
  (r.key? algorithm).map ProofKey.thumbprint

def algorithm? (r : Keyring) (thumbprint : String) : Option String :=
  (r.keys.find? fun k => k.thumbprint == thumbprint).map fun k => k.algorithm.name

/-- The thumbprint of the key of the least algorithm that is among the given ones. -/
def select? (r : Keyring) (algorithms : Names) : Option String :=
  (r.algorithms.toList.find? fun a => algorithms.contains a).bind r.thumbprint?

end Keyring
end Countersign
