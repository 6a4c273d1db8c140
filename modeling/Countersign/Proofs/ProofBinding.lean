import Countersign.Proofs.CompactTokens
import Countersign.Proofs.Sending
import Mathlib.Data.List.Induction

/-!
# Proof binding — credentials that are bound to a key travel with a proof by that key

A credential of the scheme `DPoP` names the thumbprint of a key.  Whenever a client sends it, a proof
of possession goes along, and the way from the thumbprint to the proof leads over the table of keys
in use.  This file follows it:

* `Keyring.InUse` — the keys of a list that are in use;
* `PossessionProof.Proves` — a text is a proof by a key for a method and a URI;
* `Session.Proved` — what comes of the demand for a proof;
* `ClientExchange.Proven` — a request has the one proof that its credential demands;
* `ClientExchange.Presented` — what comes of a credential that demands a proof;
* `ClientExchange.proof_binding` — a client presents such credentials with their proof or not at all.
-/

namespace Countersign

open Program

/-! ## Keys in use -/

namespace Keyring

/-- Whether a key of a list is in use: no later one is of its algorithm. -/
def InUse (keys : List ProofKey) (k : ProofKey) : Prop :=
  ∃ before after, keys = before ++ k :: after ∧ ∀ o ∈ after, o.algorithm ≠ k.algorithm

variable {keys : List ProofKey} {k l : ProofKey}

theorem not_inUse_nil : ¬ InUse [] k := by
  rintro ⟨before, after, hkeys, _⟩
  simp at hkeys

/-- One more key takes the place of the one of its algorithm. -/
theorem inUse_snoc : InUse (keys ++ [l]) k ↔ k = l ∨ (InUse keys k ∧ k.algorithm ≠ l.algorithm) := by
  constructor
  · rintro ⟨before, after, hkeys, hafter⟩
    rcases List.eq_nil_or_concat after with rfl | ⟨after', m, rfl⟩
    · have hlast : keys = before ∧ l = k := by simpa using hkeys
      exact .inl hlast.2.symm
    · have hlast : keys = before ++ k :: after' ∧ l = m := by
        have hkeys' : keys ++ [l] = (before ++ k :: after') ++ [m] := by simpa using hkeys
        simpa using List.append_inj' hkeys' rfl
      rcases hlast with ⟨rfl, rfl⟩
      refine .inr ⟨⟨before, after', rfl, fun o ho => hafter o (by simp [ho])⟩, ?_⟩
      exact (hafter l (by simp)).symm
  · rintro (rfl | ⟨⟨before, after, rfl, hafter⟩, hne⟩)
    · exact ⟨keys, [], rfl, by simp⟩
    · refine ⟨before, after ++ [l], by simp, ?_⟩
      intro o ho
      rcases List.mem_append.1 ho with hold | hnew
      · exact hafter o hold
      · rw [List.mem_singleton.1 hnew]
        exact hne.symm

/-- No two keys in use are of one algorithm. -/
theorem InUse.unique (h : InUse keys k) (h' : InUse keys l) (ha : k.algorithm = l.algorithm) :
    k = l := by
  induction keys using List.reverseRecOn with
  | nil => exact absurd h not_inUse_nil
  | append_singleton keys m ih =>
      rcases inUse_snoc.1 h with rfl | ⟨hk, hkm⟩
      · rcases inUse_snoc.1 h' with rfl | ⟨_, hlm⟩
        · rfl
        · exact absurd ha.symm hlm
      · rcases inUse_snoc.1 h' with rfl | ⟨hl, _⟩
        · exact absurd ha hkm
        · exact ih hk hl

theorem mem_insert {r : Keyring} :
    k ∈ (r.insert l).keys ↔ k = l ∨ (k ∈ r.keys ∧ k.algorithm ≠ l.algorithm) := by
  unfold insert
  by_cases hheld : (r.keys.any fun o => o.algorithm == l.algorithm) = true
  · -- the key stands where the one of its algorithm stood
    rcases List.any_eq_true.1 hheld with ⟨held, hmem, halgorithm⟩
    rw [if_pos hheld, List.mem_map]
    constructor
    · rintro ⟨o, ho, heq⟩
      by_cases hsame : o.algorithm = l.algorithm
      · rw [if_pos hsame] at heq
        exact .inl heq.symm
      · rw [if_neg hsame] at heq
        exact .inr ⟨heq ▸ ho, heq ▸ hsame⟩
    · rintro (rfl | ⟨hk, hne⟩)
      · exact ⟨held, hmem, if_pos (by simpa using halgorithm)⟩
      · exact ⟨k, hk, if_neg hne⟩
  · have hfree : ∀ o ∈ r.keys, o.algorithm ≠ l.algorithm := by simpa using hheld
    rw [if_neg hheld, List.mem_append, List.mem_singleton]
    constructor
    · rintro (hk | rfl)
      · exact .inr ⟨hk, hfree k hk⟩
      · exact .inl rfl
    · rintro (rfl | ⟨hk, _⟩)
      · exact .inr rfl
      · exact .inl hk

/-- The table of some keys holds those in use. -/
theorem mem_ofKeys : k ∈ (ofKeys keys).keys ↔ InUse keys k := by
  induction keys using List.reverseRecOn with
  | nil => simp [ofKeys, not_inUse_nil]
  | append_singleton keys l ih =>
      have hlast : ofKeys (keys ++ [l]) = (ofKeys keys).insert l := by simp [ofKeys]
      rw [hlast, mem_insert, inUse_snoc, ih]

/-- A key in use is found under its algorithm. -/
theorem key?_of_inUse (h : InUse keys k) : (ofKeys keys).key? k.algorithm.name = some k := by
  unfold key?
  cases hfound : (ofKeys keys).keys.find? fun o => o.algorithm.name == k.algorithm.name with
  | none =>
      have hnone := List.find?_eq_none.1 hfound k (mem_ofKeys.2 h)
      simp at hnone
  | some l =>
      have hname : l.algorithm.name = k.algorithm.name := by simpa using List.find?_some hfound
      have huse : InUse keys l := mem_ofKeys.1 (List.mem_of_find?_eq_some hfound)
      rw [huse.unique h (ProofAlgorithm.name_injective hname)]

theorem algorithm?_eq_none {thumbprint : String} :
    (ofKeys keys).algorithm? thumbprint = none ↔ ∀ k, InUse keys k → k.thumbprint ≠ thumbprint := by
  unfold algorithm?
  rw [Option.map_eq_none_iff, List.find?_eq_none]
  simp [mem_ofKeys]

theorem exists_of_algorithm? {thumbprint algorithm : String}
    (h : (ofKeys keys).algorithm? thumbprint = some algorithm) :
    ∃ k, InUse keys k ∧ k.thumbprint = thumbprint ∧ algorithm = k.algorithm.name := by
  rcases Option.map_eq_some_iff.1 h with ⟨k, hfound, rfl⟩
  have hthumbprint : k.thumbprint = thumbprint := by simpa using List.find?_some hfound
  exact ⟨k, mem_ofKeys.1 (List.mem_of_find?_eq_some hfound), hthumbprint, rfl⟩

end Keyring

/-! ## Proofs as texts -/

/-- Whether the source of random octets once gave fewer than it was asked for. -/
def RanDry (u : Transcript World) : Prop :=
  ∃ count octets, (⟨.entropy count, octets⟩ : Entry World) ∈ u ∧ octets.length < count

theorem RanDry.mono {u u' : Transcript World} (h : RanDry u) (hsub : u ⊆ u') : RanDry u' := by
  rcases h with ⟨count, octets, hmem, hshort⟩
  exact ⟨count, octets, hsub hmem, hshort⟩

namespace PossessionProof

/-- Whether a text is a proof by a key: a token of the type of proofs, with the algorithm and the
public half of the key in its header, for a method and a URI without fragment, signed by the key. -/
def Proves (k : ProofKey) (method : String) (uri : Url) (text : String) : Prop :=
  ∃ parts identifier moment, Token.split? text = some parts ∧
    Base64.decodeUrl? parts.header = some (Utf8.encode (Json.render (.ofFields
      [("typ", .string "dpop+jwt"), ("alg", .string k.algorithm.name), ("jwk", k.jwk)]))) ∧
    Base64.decodeUrl? parts.payload = some (Utf8.encode (Json.render (.ofFields
      [("jti", .string identifier), ("htm", .string method),
        ("htu", .string uri.withoutFragment.toString), ("iat", .integer moment)]))) ∧
    Base64.decodeUrl? parts.signature = some (k.sign (Token.signed parts.header parts.payload))

theorem proves_token (k : ProofKey) (identifier method : String) (uri : Url) (now : Instant) :
    Proves k method uri (token k identifier method uri now) := by
  refine ⟨_, identifier, now.seconds, Token.split?_assemble _ _ _, ?_, ?_, ?_⟩
  · exact Base64.decodeUrl?_encodeUrl _
  · exact Base64.decodeUrl?_encodeUrl _
  · exact Base64.decodeUrl?_encodeUrl _

/-- A proof by a known key is made, unless the random octets for its signature do not come. -/
theorem make_of_walk {ring : Keyring} {algorithm method : String} {uri : Url} {k : ProofKey}
    {u : Transcript World} {x : Except ProofError String} (hkey : ring.key? algorithm = some k)
    (h : Walk (make ring algorithm method uri) u (done x)) :
    (∃ identifier now, x = .ok (token k identifier method uri now)) ∨
      (x = .error .signing ∧ RanDry u) := by
  unfold make at h
  rw [hkey] at h
  rcases walk_ask_iff.1 h with ⟨_, hx⟩ | ⟨octets, u₁, rfl, h₁⟩
  · cases hx
  · rcases walk_ask_iff.1 h₁ with ⟨_, hx⟩ | ⟨now, u₂, rfl, h₂⟩
    · cases hx
    · rcases walk_ask_iff.1 h₂ with ⟨_, hx⟩ | ⟨blinding, u₃, rfl, h₃⟩
      · cases hx
      · by_cases hshort : blinding.length < blindingSize k
        · rw [done_bind, if_pos hshort] at h₃
          rcases walk_done_iff.1 h₃ with ⟨_, hx⟩
          cases hx
          exact .inr ⟨rfl, blindingSize k, blinding, by simp, hshort⟩
        · rw [done_bind, if_neg hshort] at h₃
          rcases walk_done_iff.1 h₃ with ⟨_, hx⟩
          cases hx
          exact .inl ⟨_, now, rfl⟩

end PossessionProof

namespace Session

/-- The proof keys that a session was given. -/
def proofKeys (s : Session) : List ProofKey :=
  match s.identity with
  | .anonymous => []
  | .openId settings _ => settings.proofKeys

/-- What comes of the demand for a proof by the key with a thumbprint, among some keys: no key in use has
it, or the proof cannot be signed, or there it is and may be sent. -/
inductive Proved (keys : List ProofKey) (thumbprint : String) (r : Request) (u : Transcript World) :
    Except ProofError (Option String) → Prop where
  | unknown : (∀ k, Keyring.InUse keys k → k.thumbprint ≠ thumbprint) →
      Proved keys thumbprint r u (.ok none)
  | unsigned {k : ProofKey} : Keyring.InUse keys k → k.thumbprint = thumbprint → RanDry u →
      Proved keys thumbprint r u (.error .signing)
  | proven {k : ProofKey} {text : String} : Keyring.InUse keys k → k.thumbprint = thumbprint →
      PossessionProof.Proves k r.method r.uri text → Headers.isValue (Utf8.encode text) = true →
      Proved keys thumbprint r u (.ok (some text))

/-- A session proves possession of the key in use with the thumbprint, if there is one. -/
theorem proved_of_walk {s : Session} {thumbprint : String} {r : Request} {u : Transcript World}
    {x : Except ProofError (Option String)} (h : Walk (s.proof thumbprint r) u (done x)) :
    Proved s.proofKeys thumbprint r u x := by
  unfold proofKeys
  unfold Session.proof keyring at h
  cases hidentity : s.identity with
  | anonymous =>
      rw [hidentity] at h
      rcases walk_done_iff.1 h with ⟨_, hx⟩
      cases hx
      exact .unknown fun k hk => absurd hk Keyring.not_inUse_nil
  | openId settings renewable =>
      rw [hidentity] at h
      dsimp only at h ⊢
      rw [VerificationSettings.keyring] at h
      by_cases hempty : settings.proofKeys.isEmpty = true
      · rw [if_pos hempty] at h
        rcases walk_done_iff.1 h with ⟨_, hx⟩
        cases hx
        refine .unknown ?_
        intro k huse
        rw [List.isEmpty_iff.1 hempty] at huse
        exact absurd huse Keyring.not_inUse_nil
      · rw [if_neg hempty] at h
        cases hfound : (Keyring.ofKeys settings.proofKeys).algorithm? thumbprint with
        | none =>
            rw [Option.bind_some, hfound] at h
            rcases walk_done_iff.1 h with ⟨_, hx⟩
            cases hx
            exact .unknown (Keyring.algorithm?_eq_none.1 hfound)
        | some algorithm =>
            rw [Option.bind_some, hfound] at h
            rcases Keyring.exists_of_algorithm? hfound with ⟨k, huse, hthumbprint, rfl⟩
            rcases Walk.of_bind_done h with ⟨made, u₁, u₂, rfl, hmake, hrest⟩
            rcases PossessionProof.make_of_walk (Keyring.key?_of_inUse huse) hmake with
              ⟨identifier, now, rfl⟩ | ⟨rfl, hdry⟩
            · rcases walk_done_iff.1 hrest with ⟨_, hx⟩
              cases hx
              exact .proven huse hthumbprint
                (PossessionProof.proves_token k identifier r.method r.uri now)
                (Token.isValue_assemble _ _ _)
            · rcases walk_done_iff.1 hrest with ⟨_, hx⟩
              cases hx
              exact .unsigned huse hthumbprint (hdry.mono (by simp))

end Session

namespace ClientExchange

/-! ## Requests with proofs -/

variable {keys : List ProofKey} {r up : Request} {c : Credential}

/-- Whether the text of a credential may stand in a field. -/
def Legal (c : Credential) : Prop := Headers.isValue (Utf8.encode c.authorization) = true

/-- Whether a request has one proof, by the key in use that its credential is bound to, and for the
method and the URI of the request itself. -/
def Proven (keys : List ProofKey) (c : Credential) (up : Request) : Prop :=
  ∃ k proof, Keyring.InUse keys k ∧ c.thumbprint = some k.thumbprint ∧
    up.headers.values proofField = [Utf8.encode proof] ∧
    PossessionProof.Proves k up.method up.uri proof

/-- The reasons for which a credential that demands a proof is not presented. -/
inductive Withheld (keys : List ProofKey) (c : Credential) : Failure → Prop where
  | illegal : ¬ Legal c → Withheld keys c
      (.transport (.invalidRequest "invalid header value: failed to parse header value"))
  | unbound : Legal c → c.thumbprint = none → Withheld keys c (.proof .unbound)
  | unknown {thumbprint : String} : Legal c → c.thumbprint = some thumbprint →
      (∀ k, Keyring.InUse keys k → k.thumbprint ≠ thumbprint) →
      Withheld keys c (.proof (.unknownThumbprint thumbprint))

/-- Whether the proof that a credential demands could not be signed: its key is in use, but the random
octets for the signature did not come. -/
structure Unsigned (keys : List ProofKey) (c : Credential) (u : Transcript World) : Prop where
  legal : Legal c
  inUse : ∃ k, Keyring.InUse keys k ∧ c.thumbprint = some k.thumbprint
  dry : RanDry u

theorem Unsigned.mono {u u' : Transcript World} (h : Unsigned keys c u) (hsub : u ⊆ u') :
    Unsigned keys c u' :=
  ⟨h.legal, h.inUse, h.dry.mono hsub⟩

theorem setField_eq_ok {name value : String} (h : setField r name value = .ok up) :
    Headers.isValue (Utf8.encode value) = true := by
  unfold setField at h
  split at h
  · assumption
  · cases h

theorem illegal_of_setField {e : Failure}
    (h : setField r authorizationField c.authorization = .error e) : Withheld keys c e := by
  unfold setField at h
  split at h
  · cases h
  · cases h
    exact .illegal (by assumption)

/-- Building a request with a credential that demands a proof ends in a request that has it, or in a
reason, or in a proof that could not be signed. -/
theorem Built.proven_or_withheld {client : Client} {b : Transcript ClientExchange}
    {u : Transcript World} {x : Except Failure Request} (hserved : Served client.inWorld b u)
    (hdpop : c.isDpop = true) (h : Built r c b x) :
    (∃ e, x = .error e ∧ Withheld client.session.proofKeys c e) ∨
      (x = .error (.proof .signing) ∧ Unsigned client.session.proofKeys c u) ∨
      ∃ up, x = .ok up ∧ Legal c ∧ Proven client.session.proofKeys c up := by
  cases h with
  | illegal hset => exact .inl ⟨_, rfl, illegal_of_setField hset⟩
  | plain _ hplain =>
      rw [hdpop] at hplain
      cases hplain
  | unbound hset _ hbound => exact .inl ⟨_, rfl, .unbound (setField_eq_ok hset) hbound⟩
  | failed e hset _ hbound =>
      rcases hserved.of_cons with ⟨u₁, u₂, rfl, hproof, _⟩
      -- a session that has the key fails in one way only
      cases Session.proved_of_walk hproof with
      | @unsigned k huse hk hdry =>
          refine .inr (.inl ⟨rfl, setField_eq_ok hset, ⟨k, huse, ?_⟩, hdry.mono (by simp)⟩)
          rw [hbound, hk]
  | unknown hset _ hbound =>
      rcases hserved.of_cons with ⟨u₁, u₂, rfl, hproof, _⟩
      cases Session.proved_of_walk hproof with
      | unknown hnone => exact .inl ⟨_, rfl, .unknown (setField_eq_ok hset) hbound hnone⟩
  | @proven plain thumbprint proof hset _ hbound =>
      rcases hserved.of_cons with ⟨u₁, u₂, rfl, hproof, _⟩
      cases Session.proved_of_walk hproof with
      | @proven k _ huse hk hproves hvalue =>
          have hplain := eq_setHeader_of_setField hset
          subst hplain
          refine .inr (.inr ⟨_, if_pos hvalue, setField_eq_ok hset, k, proof, huse, ?_, ?_, hproves⟩)
          · rw [hbound, hk]
          · exact Headers.values_set_self _ _ _

/-! ## Credentials on offer -/

section

variable {t : Transcript ClientExchange}

@[simp] theorem not_offered_nil : ¬ Offered r [] c := by simp [Offered]

theorem offered_cons {e : Entry ClientExchange} :
    Offered r (e :: t) c ↔
      (e = ⟨.recall r, some c⟩ ∨ ∃ refusal, e = ⟨.negotiate r refusal, .ok (some c)⟩) ∨
        Offered r t c := by
  simp only [Offered, List.mem_cons, exists_or, eq_comm (b := e)]
  tauto

@[simp] theorem offered_transmit {up : Request} {answer : Except TransportError Response} :
    Offered r (⟨.transmit up, answer⟩ :: t) c ↔ Offered r t c := by
  rw [offered_cons]
  constructor
  · rintro ((heq | ⟨refusal, heq⟩) | h)
    · cases heq
    · cases heq
    · exact h
  · exact Or.inr

@[simp] theorem offered_prove {thumbprint : String} {answer : Except ProofError (Option String)} :
    Offered r (⟨.prove thumbprint r, answer⟩ :: t) c ↔ Offered r t c := by
  rw [offered_cons]
  constructor
  · rintro ((heq | ⟨refusal, heq⟩) | h)
    · cases heq
    · cases heq
    · exact h
  · exact Or.inr

@[simp] theorem offered_recall {found : Option Credential} :
    Offered r (⟨.recall r, found⟩ :: t) c ↔ found = some c ∨ Offered r t c := by
  rw [offered_cons]
  constructor
  · rintro ((heq | ⟨refusal, heq⟩) | h)
    · cases heq
      exact .inl rfl
    · cases heq
    · exact .inr h
  · rintro (rfl | h)
    · exact .inl (.inl rfl)
    · exact .inr h

@[simp] theorem offered_negotiate {refusal : Response}
    {outcome : Except AuthError (Option Credential)} :
    Offered r (⟨.negotiate r refusal, outcome⟩ :: t) c ↔
      outcome = .ok (some c) ∨ Offered r t c := by
  rw [offered_cons]
  constructor
  · rintro ((heq | ⟨refusal, heq⟩) | h)
    · cases heq
    · cases heq
      exact .inl rfl
    · exact .inr h
  · rintro (rfl | h)
    · exact .inl (.inr ⟨refusal, rfl⟩)
    · exact .inr h

@[simp] theorem offered_append {u : Transcript ClientExchange} :
    Offered r (t ++ u) c ↔ Offered r t c ∨ Offered r u c := by
  simp only [Offered, List.mem_append, exists_or]
  tauto

/-- Building a request asks for proofs only, so it puts no credential on offer. -/
theorem Built.not_offered {b : Transcript ClientExchange} {x : Except Failure Request}
    {c' : Credential} (h : Built r c b x) : ¬ Offered r b c' := by
  cases h <;> simp

end

/-! ## Exchanges with such credentials -/

/-- What an exchange for a request comes to when there is a credential that demands a proof: the
request goes out with credential and proof, or there is a reason why nothing but the request itself
does, or the proof could not be signed. -/
inductive Presented (keys : List ProofKey) (r : Request) (c : Credential) (u : Transcript World) :
    List (Request × Except TransportError Response) → Except Failure Response → Prop where
  | proven {plain : List (Request × Except TransportError Response)} {up : Request}
      (answer : Except TransportError Response) : (∀ s ∈ plain, s.1 = r) → Legal c →
      Upgrade r c up → Proven keys c up →
      Presented keys r c u (plain ++ [(up, answer)]) (answer.mapError .transport)
  | withheld {plain : List (Request × Except TransportError Response)} {e : Failure} :
      (∀ s ∈ plain, s.1 = r) → Withheld keys c e → Presented keys r c u plain (.error e)
  | unsigned {plain : List (Request × Except TransportError Response)} :
      (∀ s ∈ plain, s.1 = r) → Unsigned keys c u →
      Presented keys r c u plain (.error (.proof .signing))

/-- An exchange with a credential on offer ends in building a request with it, or in sending that. -/
theorem Sequence.built_of_offered {t : Transcript ClientExchange} {v : Except Failure Response}
    (h : Sequence r t v) (hoffered : Offered r t c) :
    ∃ t₁ b x, Built r c b x ∧ (∀ s ∈ sent t₁, s.1 = r) ∧
      ((∃ e, x = .error e ∧ v = .error e ∧ t = t₁ ++ b) ∨
        ∃ up, ∃ answer : Except TransportError Response, x = .ok up ∧
          v = answer.mapError .transport ∧ t = t₁ ++ (b ++ [⟨.transmit up, answer⟩])) := by
  cases h with
  | own answer _ => simp at hoffered
  | unchallenged answer _ _ => simp at hoffered
  | unresolved outcome _ _ hnone =>
      have houtcome : outcome = .ok (some c) := by simpa using hoffered
      exact absurd houtcome (hnone c)
  | @cached c' b up answer _ hb =>
      have hsame : c' = c := by simpa [hb.not_offered] using hoffered
      subst hsame
      exact ⟨[⟨.recall r, some c'⟩], b, .ok up, hb, by simp [sent], .inr ⟨up, answer, rfl, rfl, rfl⟩⟩
  | @cachedUnbuilt c' b e _ hb =>
      have hsame : c' = c := by simpa [hb.not_offered] using hoffered
      subst hsame
      exact ⟨[⟨.recall r, some c'⟩], b, .error e, hb, by simp [sent], .inl ⟨e, rfl, rfl, rfl⟩⟩
  | @retried refusal c' b up answer _ _ hb =>
      have hsame : c' = c := by simpa [hb.not_offered] using hoffered
      subst hsame
      exact ⟨[⟨.recall r, none⟩, ⟨.transmit r, .ok refusal⟩, ⟨.negotiate r refusal, .ok (some c')⟩],
        b, .ok up, hb, by simp [sent], .inr ⟨up, answer, rfl, rfl, rfl⟩⟩
  | @retryUnbuilt refusal c' b e _ _ hb =>
      have hsame : c' = c := by simpa [hb.not_offered] using hoffered
      subst hsame
      exact ⟨[⟨.recall r, none⟩, ⟨.transmit r, .ok refusal⟩, ⟨.negotiate r refusal, .ok (some c')⟩],
        b, .error e, hb, by simp [sent], .inl ⟨e, rfl, rfl, rfl⟩⟩

/-- On its way, an exchange hands over the request itself or one that was built with a credential on
offer. -/
theorem BeforeTransmit.built {t : Transcript ClientExchange} (h : BeforeTransmit r t up) :
    up = r ∨ ∃ c t₁ b, Offered r t c ∧ Built r c b (.ok up) ∧ t = t₁ ++ b := by
  cases h with
  | own _ => exact .inl rfl
  | first _ => exact .inl rfl
  | @cached c b _ _ hb => exact .inr ⟨c, [⟨.recall r, some c⟩], b, by simp, hb, rfl⟩
  | @retry refusal c b _ _ _ hb =>
      exact .inr ⟨c, [⟨.recall r, none⟩, ⟨.transmit r, .ok refusal⟩,
        ⟨.negotiate r refusal, .ok (some c)⟩], b, by simp, hb, rfl⟩

/-! ## Clients -/

/-- What a client of a session with some proof keys makes of credentials that demand proofs. -/
structure ProofBinding (client : Client) (keys : List ProofKey) (r : Request) : Prop where
  /-- A complete exchange presents such a credential with its proof, or there is a reason not to, or the
  source of randomness has run dry. -/
  complete : ∀ u v, Walk (client.send r) u (done v) →
    ∃ t, Walk (program r) t (done v) ∧ Served client.inWorld t u ∧
      ∀ c, Offered r t c → c.isDpop = true → Presented keys r c u (sent t) v
  /-- Whatever is handed over is the request itself, or has a credential with its proof. -/
  underway : ∀ t u up next, Walk (program r) t (ask (I := ClientExchange) (.transmit up) next) →
    Served client.inWorld t u →
    up = r ∨ ∃ c, Offered r t c ∧ Upgrade r c up ∧ (c.isDpop = true → Proven keys c up)

/-- Credentials that are bound to a key leave a client with the proof by that key, or not at all. -/
theorem proof_binding (number : SessionId) (name : String) (settings : VerificationSettings)
    (renewable : Bool) (registry : Registry) (r : Request) :
    ProofBinding ⟨⟨number, name, .openId settings renewable⟩, registry⟩ settings.proofKeys r where
  complete u v hwalk := by
    rcases hwalk.of_interpret_done with ⟨t, ht, hserved⟩
    refine ⟨t, ht, hserved, ?_⟩
    intro c hoffered hdpop
    rcases (sequence_of_walk ht).built_of_offered hoffered with ⟨t₁, b, x, hb, hplain, hend⟩
    rcases hend with ⟨e, rfl, rfl, rfl⟩ | ⟨up, answer, rfl, rfl, rfl⟩
    · have hsent : sent (t₁ ++ b) = sent t₁ := by simp [hb.silent.1]
      rcases hserved.of_append with ⟨_, u₂, rfl, _, hproof⟩
      rcases hb.proven_or_withheld hproof hdpop with
        ⟨e', he, hwithheld⟩ | ⟨he, hunsigned⟩ | ⟨up, hup, _⟩
      · cases he
        rw [hsent]
        exact .withheld hplain hwithheld
      · cases he
        rw [hsent]
        exact .unsigned hplain (hunsigned.mono (by simp))
      · cases hup
    · have hsent : sent (t₁ ++ (b ++ [⟨.transmit up, answer⟩])) = sent t₁ ++ [(up, answer)] := by
        simp [hb.silent.1, sent]
      rcases hserved.of_append with ⟨_, u₂, rfl, _, hbehind⟩
      rcases hbehind.of_append with ⟨u₃, _, rfl, hproof, _⟩
      rcases hb.proven_or_withheld hproof hdpop with
        ⟨e, he, _⟩ | ⟨he, _⟩ | ⟨up', hup, hlegal, hproven⟩
      · cases he
      · cases he
      · cases hup
        rw [hsent]
        exact .proven answer hplain hlegal hb.upgrade hproven
  underway t u up next hwalk hserved := by
    have hasked := asked_of_walk hwalk
    cases hasked with
    | transmit hbefore =>
        rcases hbefore.built with rfl | ⟨c, t₁, b, hoffered, hb, rfl⟩
        · exact .inl rfl
        · refine .inr ⟨c, hoffered, hb.upgrade, ?_⟩
          intro hdpop
          rcases hserved.of_append with ⟨_, u₂, rfl, _, hproof⟩
          rcases hb.proven_or_withheld hproof hdpop with
            ⟨e, he, _⟩ | ⟨he, _⟩ | ⟨up', hup, _, hproven⟩
          · cases he
          · cases he
          · cases hup
            exact hproven

/-! ### A credential that no field can hold -/

def shelf : Url := { scheme := "urn", path := "shelf" }

/-- A credential that demands a proof and names no key; its token is two lines long. -/
def twoLines : Credential where
  scheme := dpop
  issuer := shelf
  token := "a\nb"
  expiration := ⟨60, 0⟩

/-- A client without providers. -/
def lender : Client := ⟨⟨0, "lender", .openId {} false⟩, {}⟩

/-- A store in which the credential has been negotiated for the resource. -/
def lent : Store where
  vault := fun _ => { cache := ({} : CredentialCache).insert (CredentialCache.key shelf) twoLines }

/-- An outside in which time stands still and no request is answered. -/
def standstill : Outside Unit where
  transmit _ w := (.error (.request ""), w)
  clock _ := ⟨0, 0⟩
  entropy _ w := ([], w)
  freshToken _ w := (.error (.refresh ""), w)
  note _ w := w
  fileAt _ _ := .error .notFound

theorem not_legal_twoLines : ¬ Legal twoLines := by
  have hvalue : Headers.isValue (Utf8.encode twoLines.authorization) = false := by decide +kernel
  simp [Legal, hvalue]

/-- The credential lacks a key, but it is its token for which it is withheld. -/
theorem withheld_twoLines :
    twoLines.isDpop = true ∧ twoLines.thumbprint = none ∧
      (lender.send (.get shelf)).alone standstill (lent, ()) =
        (.error (.transport
          (.invalidRequest "invalid header value: failed to parse header value")), (lent, ())) := by
  refine ⟨by decide, rfl, ?_⟩
  have hset : setField (.get shelf) authorizationField twoLines.authorization =
      .error (.transport (.invalidRequest
        "invalid header value: failed to parse header value")) := if_neg not_legal_twoLines
  have hbuild : authorize (.get shelf) twoLines =
      done (.error (.transport (.invalidRequest
        "invalid header value: failed to parse header value"))) := by
    rw [authorize, hset]
  -- the credential is found in the cache, and what is left is to present it
  have hpresent : (lender.send (.get shelf)).alone standstill (lent, ()) =
      ((sendWith (.get shelf) twoLines).interpret lender.inWorld).run standstill.step (lent, ()) :=
    rfl
  rw [hpresent, sendWith, hbuild]
  rfl

end ClientExchange
end Countersign
