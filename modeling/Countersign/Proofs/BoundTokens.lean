import Countersign.Proofs.Vouching

/-!
# Bound tokens — which scheme a token is presented under

The claims of a token can confirm a proof key by its thumbprint.  A token that does so is presented with
proofs by that key, and any other token as a bearer token.  The scheme is decided once, when the token is
accepted; this file follows it into the slot of the session, where every program finds it.

* `Token.thumbprint?` — the thumbprint that a token names;
* `Credential.Faithful` — a credential has the scheme and the thumbprint that its token calls for;
* `Act.Faithful` — a question puts only such credentials into slots;
* `storeAfter_faithful` — what such questions leave in slots, one after the other;
* `Session.credential_faithful`, `Registry.standard_faithful` — sessions and the authenticators of the
  library ask only such questions.
-/

namespace Countersign

open Program

/-! ## The key that a token names -/

/-- The thumbprint that a confirmation names: the text of its field `jkt`, or that of a list of one. -/
def Json.thumbprint? : Json → Option String
  | .list [j] => j.string?
  | j => (j.field? "jkt").bind Json.string?

/-- The thumbprint of the proof key that a token is bound to: what its claim `cnf` names. -/
def Token.thumbprint? (token : String) : Option String :=
  ((Token.payload? token).bind (Json.field? "cnf")).bind Json.thumbprint?

/-- A field that may be absent or null is one of these, or has a value that can be read. -/
theorem Json.of_optional? {α : Type} {read : Json → Option α} {o : Option Json} {x : Option α}
    (h : Json.optional? read o = some x) :
    (x = none ∧ (o = none ∨ o = some .null)) ∨ ∃ j a, o = some j ∧ read j = some a ∧ x = some a := by
  cases o with
  | none =>
      cases h
      exact .inl ⟨rfl, .inl rfl⟩
  | some j =>
      cases j with
      | null =>
          cases h
          exact .inl ⟨rfl, .inr rfl⟩
      | _ =>
          rcases Option.map_eq_some_iff.1 h with ⟨a, ha, rfl⟩
          exact .inr ⟨_, a, rfl, ha, rfl⟩

theorem Json.bind_string?_of_optional? {o : Option Json} {x : Option String}
    (h : Json.optional? Json.string? o = some x) : x = o.bind Json.string? := by
  rcases Json.of_optional? h with ⟨rfl, rfl | rfl⟩ | ⟨j, s, rfl, hs, rfl⟩
  · rfl
  · rfl
  · exact hs.symm

namespace IdentityClaims

/-- What is read from a confirmation is the thumbprint that it names. -/
theorem confirmation?_eq_some {j : Json} {x : Option String} (h : confirmation? j = some x) :
    x = j.thumbprint? := by
  unfold confirmation? at h
  rcases Option.bind_eq_some_iff.1 h with ⟨values, hvalues, hrest⟩
  cases j with
  | object fields =>
      rw [Json.record?_object hvalues] at hrest
      exact Json.bind_string?_of_optional? hrest
  | list items =>
      rcases items with _ | ⟨item, _ | ⟨_, _⟩⟩
      · cases hvalues
        cases hrest
        rfl
      · -- fields may come as a list in order, and the only one is the thumbprint
        cases hvalues
        exact Json.bind_string?_of_optional? hrest
      · -- a longer list is no confirmation
        simp [Json.record?] at hvalues
  | _ => cases hvalues

/-- The claim `cnf` is read as the thumbprint that it names, if any. -/
theorem thumbprint_of_confirmation {o : Option Json} {x : Option (Option String)}
    (h : Json.optional? confirmation? o = some x) : x.join = o.bind Json.thumbprint? := by
  rcases Json.of_optional? h with ⟨rfl, rfl | rfl⟩ | ⟨j, named, rfl, hnamed, rfl⟩
  · rfl
  · rfl
  · exact confirmation?_eq_some hnamed

/-- The claims of an object name the thumbprint of its claim `cnf`. -/
theorem thumbprint_of_object {fields : List (Option String × Json)} {c : IdentityClaims}
    (h : ofJson? (.object fields) = some c) :
    c.thumbprint = (Json.field? "cnf" (.object fields)).bind Json.thumbprint? := by
  rcases read_of_object h with ⟨_, _, _, _, bound, hbound, hc⟩
  rw [hc]
  exact thumbprint_of_confirmation hbound

end IdentityClaims

/-! ## Faithful credentials -/

/-- Whether a credential has the scheme and the thumbprint that its token calls for. -/
inductive Credential.Faithful (c : Credential) : Prop where
  | bound {thumbprint : String} : Token.thumbprint? c.token = some thumbprint → c.scheme = dpop →
      c.thumbprint = some thumbprint → Credential.Faithful c
  | free : Token.thumbprint? c.token = none → c.scheme = bearer → c.thumbprint = none →
      Credential.Faithful c

theorem Credential.Faithful.thumbprint_eq {c : Credential} (h : c.Faithful) :
    c.thumbprint = Token.thumbprint? c.token := by
  cases h with
  | bound htoken _ hthumbprint => rw [htoken, hthumbprint]
  | free htoken _ hthumbprint => rw [htoken, hthumbprint]

/-- A credential of a bound token demands proofs. -/
theorem Credential.Faithful.scheme_eq {c : Credential} {thumbprint : String} (h : c.Faithful)
    (htoken : Token.thumbprint? c.token = some thumbprint) : c.scheme = dpop := by
  cases h with
  | bound _ hscheme _ => exact hscheme
  | free hfree _ _ =>
      rw [hfree] at htoken
      cases htoken

theorem Credential.isDpop_of_scheme {c : Credential} (h : c.scheme = dpop) : c.isDpop = true := by
  rw [Credential.isDpop, h]
  decide

namespace IdToken

/-- The claims of a token with an expiration name the thumbprint that the token names. -/
theorem thumbprint_of_claims {token : String} {h : TokenHeader} {key : Option VerificationKey}
    {c : IdentityClaims} {limits : LimitClaims} (hclaims : claims token h key = .ok (c, limits))
    (hexpiration : limits.expiration ≠ none) : c.thumbprint = Token.thumbprint? token := by
  rcases fields_of_claims hclaims hexpiration with ⟨fields, hj, hidentity, _⟩
  rw [Token.thumbprint?, hj]
  exact IdentityClaims.thumbprint_of_object hidentity

/-- A token that passes gives a faithful credential. -/
theorem faithful_of_accept {settings : VerificationSettings} {token : String} {h : TokenHeader}
    {key : Option VerificationKey} {now : Instant} {v : VerifiedToken}
    (haccept : accept settings token h key now = .ok v) :
    v.credential.token = token ∧ v.credential.Faithful := by
  rcases accept_eq_ok.1 haccept with ⟨c, limits, issuer, expiration, hclaims, hcheck, _, _, rfl⟩
  have hthumbprint := thumbprint_of_claims hclaims (LimitClaims.expiration_of_check hcheck)
  refine ⟨rfl, ?_⟩
  cases hnamed : c.thumbprint with
  | some thumbprint =>
      refine .bound (hthumbprint.symm.trans hnamed) ?_ hnamed
      simp [credentialOf, hnamed]
  | none =>
      refine .free (hthumbprint.symm.trans hnamed) ?_ hnamed
      simp [credentialOf, hnamed]

theorem faithful_of_walk {settings : VerificationSettings} {token : String} {u : Transcript World}
    {v : VerifiedToken} (hwalk : Walk (verify settings token) u (done (.ok v))) :
    v.credential.token = token ∧ v.credential.Faithful := by
  rcases judged_of_walk hwalk with ⟨h, key, _, now, _, _, haccept⟩
  exact faithful_of_accept haccept

end IdToken

/-! ## Slots -/

/-- Whether a question puts only faithful credentials into slots. -/
def Act.Faithful : Act → Prop
  | .establish _ _ held => ∀ c, held = some c → c.Faithful
  | .settle _ outcome => ∀ c, outcome = .ok (some c) → c.Faithful
  | _ => True

theorem Act.SparesVaults.faithful {op : Act} (h : op.SparesVaults) : op.Faithful := by
  rcases h with hexternal | ⟨location, rfl⟩ | ⟨location, m, rfl⟩
  · cases op with
    | establish | settle => exact hexternal.elim
    | _ => trivial
  · trivial
  · trivial

/-- Whether all long-lived credentials are faithful. -/
def Store.Faithful (s : Store) : Prop :=
  ∀ id c, (s.vault id).slot.credential = some c → c.Faithful

/-- One step keeps long-lived credentials faithful. -/
theorem Store.Faithful.onStore {s : Store} {op : Act} (h : s.Faithful) (hop : op.Faithful) :
    (op.onStore s).Faithful := by
  intro id c hheld
  cases op with
  | establish i settings held =>
      simp only [Act.onStore, Store.update_vault] at hheld
      split at hheld
      · exact hop c hheld
      · exact h id c hheld
  | settle i outcome =>
      simp only [Act.onStore, Store.update_vault] at hheld
      split at hheld
      · -- a failure keeps the credential
        cases outcome with
        | error reason => exact h id c hheld
        | ok settled => exact hop c (congrArg Except.ok hheld)
      · exact h id c hheld
  | forget i =>
      simp only [Act.onStore, Store.update_vault] at hheld
      split at hheld
      · cases hheld
      · exact h id c hheld
  | _ =>
      rw [Slot.slot_onStore s rfl rfl] at hheld
      exact h id c hheld

/-- So do many. -/
theorem storeAfter_faithful {ι : Type} {s : Store} {l : List (Event ι)} (h : s.Faithful)
    (hl : ∀ e ∈ l, e.act.Faithful) : (storeAfter s l).Faithful := by
  induction l generalizing s with
  | nil => exact h
  | cons e l ih =>
      rw [storeAfter_cons]
      exact ih (h.onStore (hl e (.head _))) fun e he => hl e (.tail _ he)

/-! ## Sessions and authenticators -/

namespace Session

/-- A refresh gives the credential of the fresh token, which is faithful. -/
theorem faithful_of_refresh {s : Session} {u : Transcript World} {c : Credential}
    (h : Walk s.refresh u (done (.ok (some c)))) :
    c.Faithful ∧ ∃ token u', u = ⟨.pause, ()⟩ :: ⟨.freshToken s.number, .ok token⟩ :: u' ∧
      c.token = token := by
  unfold refresh at h
  split at h
  · rcases renew_of_walk h with ⟨token, u', v, rfl, hverify, rfl⟩
    rcases IdToken.faithful_of_walk hverify with ⟨htoken, hfaithful⟩
    exact ⟨hfaithful, token, u', rfl, htoken⟩
  · rcases walk_done_iff.1 h with ⟨_, hx⟩
    cases hx

/-- Getting the long-lived credential keeps slots faithful. -/
theorem credential_faithful (s : Session) (name : String) :
    (s.credential name).Only Act.Faithful := by
  refine credential_only_of name (Slot.getOrRefresh_only trivial trivial trivial ?_ ?_)
  · exact s.refresh_only.mono fun op h => Act.SparesVaults.faithful (.inl h)
  · -- what is written is what the refresh has come to
    intro u outcome hwalk c houtcome
    have hown : outcome = .ok (some c) := mapError_eq_ok.1 houtcome
    subst hown
    exact (faithful_of_refresh hwalk).1

/-! ### Beginning a session -/

theorem anonymous_faithful (number : SessionId) (settings : CacheSettings) :
    (anonymous number settings).Only Act.Faithful := by
  refine ⟨trivial, fun _ => ⟨?_, fun _ => trivial⟩⟩
  intro c hheld
  cases hheld

theorem ofSource_faithful (number : SessionId) (settings : CacheSettings)
    (verification : VerificationSettings) :
    (ofSource number settings verification).Only Act.Faithful := by
  refine ⟨trivial, fun _ => ⟨?_, fun _ => trivial⟩⟩
  intro c hheld
  cases hheld

theorem ofToken_faithful (number : SessionId) (settings : CacheSettings)
    (verification : VerificationSettings) (token : String) :
    (ofToken number settings verification token).Only Act.Faithful := by
  refine Only.bind_of_walk ((IdToken.verify_only verification token).mono fun op h =>
    Act.SparesVaults.faithful (.inl h)) ?_
  -- verifying writes no slot, so it is about the credential that the session begins with
  intro u verified hverify
  cases verified with
  | error e => trivial
  | ok v =>
      refine ⟨?_, fun _ => trivial⟩
      rintro c hheld
      cases hheld
      exact (IdToken.faithful_of_walk hverify).2

/-- A session of a token begins with the faithful credential of the token. -/
theorem ofToken_of_walk {number : SessionId} {settings : CacheSettings}
    {verification : VerificationSettings} {token : String} {u : Transcript World} {s : Session}
    (h : Walk (ofToken number settings verification token) u (done (.ok s))) :
    ∃ u' c, u = u' ++ [⟨.establish number settings (some c), ()⟩] ∧ c.token = token ∧
      c.Faithful := by
  rcases begun_of_walk h with ⟨u', v, rfl, hverify, _⟩
  rcases IdToken.faithful_of_walk hverify with ⟨htoken, hfaithful⟩
  exact ⟨u', v.credential, rfl, htoken, hfaithful⟩

end Session

/-- Whether the authenticators that a registry selects keep slots faithful. -/
def Registry.Faithful (registry : Registry) : Prop :=
  ∀ s cs a, registry.select s cs = some a → ∀ r names, (a.acquire s r names).Only Act.Faithful

/-- The registries of the library keep slots faithful, if the handlers of claims do so. -/
theorem Registry.standard_faithful {settings : NegotiationSettings} {tickets : TicketProvider}
    (hgather : ∀ h ∈ tickets.handlers, h.gather.Only Act.Faithful) :
    (Registry.standard settings tickets).Faithful := by
  intro s cs a hselect r names
  exact standard_only_of (fun _ h => h.faithful) (s.credential_faithful IdToken.name) hgather hselect r
    names

/-! ## Presenting a token -/

namespace IdToken

theorem presentable_eq_ok {needsProof : Bool} {x : Except AuthError (Option Credential)}
    {c : Credential} :
    presentable needsProof x = .ok c ↔
      x = .ok (some c) ∧ (needsProof = true → c.thumbprint ≠ none) := by
  rcases x with e | _ | held
  · simp [presentable]
  · simp [presentable]
  · unfold presentable
    dsimp only
    split
    · rename_i hmissing
      simp only [Bool.and_eq_true, Option.isNone_iff_eq_none] at hmissing
      constructor
      · intro h
        cases h
      · rintro ⟨hheld, hbound⟩
        cases hheld
        exact absurd hmissing.2 (hbound hmissing.1)
    · rename_i hfit
      constructor
      · intro h
        cases h
        exact ⟨rfl, by simpa using hfit⟩
      · rintro ⟨hheld, _⟩
        cases hheld
        rfl

/-- The token that is presented for a challenge is that of a session with an identity. It was in the
slot at some look, or it was refreshed; and if the challenge demands a proof it names a key. -/
theorem presented_of_walk {needsProof : Bool} {s : Session} {r : Request} {names : Names}
    {u : Transcript World} {c : Credential}
    (h : Walk ((authenticator needsProof).acquire s r names) u (done (.ok c))) :
    (∃ settings renewable, s.identity = .openId settings renewable) ∧
      (needsProof = true → c.thumbprint ≠ none) ∧
      ((∃ x, (⟨.look s.number, x⟩ : Entry World) ∈ u ∧ x.1.credential = some c) ∨ c.Faithful) := by
  rcases h.of_bind_done with ⟨x, u₁, u₂, rfl, hcredential, hend⟩
  rcases walk_done_iff.1 hend with ⟨rfl, hx⟩
  rcases presentable_eq_ok.1 (Program.done.inj hx).symm with ⟨rfl, hbound⟩
  unfold Session.credential at hcredential
  cases hidentity : s.identity with
  | anonymous =>
      -- such a session has no token
      rw [hidentity] at hcredential
      rcases walk_done_iff.1 hcredential with ⟨_, hx⟩
      cases hx
  | openId settings renewable =>
      rw [hidentity] at hcredential
      refine ⟨⟨settings, renewable, rfl⟩, hbound, ?_⟩
      simp only [if_true] at hcredential
      rcases Slot.returned_of_walk hcredential with
        ⟨t₁, x, t₂, rfl, hheld⟩ | ⟨x, y, u, t₂, now, _, hrefresh⟩
      · exact .inl ⟨x, by simp, hheld⟩
      · exact .inr (Session.faithful_of_refresh hrefresh).1

end IdToken
end Countersign
