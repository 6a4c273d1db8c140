import Countersign.Proofs.Walk
import Countersign.Uma.Provider

/-!
# Acquiring — how a credential for a ticket is obtained, and how that fails

The authenticator of a ticket challenge asks the session for its identity token, discovers the
authorization server, exchanges the ticket and dates the token.  Each part can fail, and then nothing
after it is asked.  This file defines:

* `TicketProvider.questions` — the questions of the exchange that a session has at a server;
* `TicketProvider.Exchanged` — the complete exchanges, with what becomes of the granted token;
* `TicketProvider.Acquired` — the complete acquisitions, with their credentials and failures;
* `TicketProvider.walk_exchange_iff`, `TicketProvider.walk_acquire_iff` — these are the ones that end.
-/

namespace Countersign

open Program

namespace TicketProvider

/-- The questions of the exchange for a session at a discovered server. -/
def questions (p : TicketProvider) (c : TicketChallenge) (s : Session) (idToken : Option Credential)
    (m : Metadata) : Program TicketExchange (Except UmaError TokenAnswer) :=
  TicketExchange.rounds p.rounds m.tokenEndpoint p.handlers
    (s.selectThumbprint (Names.ofList m.dpopAlgorithms)) p.rounds
    { ticket := c.ticket, claim := idToken.map fun i => ⟨i.token, IdToken.name⟩ }

/-- An exchange fails, or grants a token.  That token makes a credential if the end of its life is an
instant. -/
inductive Exchanged (p : TicketProvider) (c : TicketChallenge) (s : Session)
    (idToken : Option Credential) (m : Metadata) :
    Transcript World → Except AuthError Credential → Prop where
  | failed {w : Transcript TicketExchange} {u : Transcript World} {e : UmaError} :
      Walk (p.questions c s idToken m) w (done (.error e)) →
      Served (TicketExchange.inWorld s p.handlers) w u →
      Exchanged p c s idToken m u (.error (.uma e))
  | overlong {w : Transcript TicketExchange} {u : Transcript World} {token : TokenAnswer}
      {now : Instant} :
      Walk (p.questions c s idToken m) w (done (.ok token)) →
      Served (TicketExchange.inWorld s p.handlers) w u →
      now.addSeconds? (token.expiresIn.getD TokenAnswer.defaultLifetime) = none →
      Exchanged p c s idToken m (u ++ [⟨.clock, now⟩])
        (.error (.invalidCredential (.lifetimeOutOfRange (token.expiresIn.getD 0))))
  | granted {w : Transcript TicketExchange} {u : Transcript World} {token : TokenAnswer}
      {now expiration : Instant} :
      Walk (p.questions c s idToken m) w (done (.ok token)) →
      Served (TicketExchange.inWorld s p.handlers) w u →
      now.addSeconds? (token.expiresIn.getD TokenAnswer.defaultLifetime) = some expiration →
      Exchanged p c s idToken m (u ++ [⟨.clock, now⟩])
        (.ok (credentialOf c.server token expiration idToken
          (s.selectThumbprint (Names.ofList m.dpopAlgorithms))))

/-- An acquisition ends where its first part fails, and otherwise as its exchange does. -/
inductive Acquired (p : TicketProvider) (c : TicketChallenge) (s : Session) :
    Transcript World → Except AuthError Credential → Prop where
  | unidentified {u : Transcript World} {e : AuthError} :
      Walk (s.credential IdToken.name) u (done (.error e)) → Acquired p c s u (.error e)
  | undiscovered {u₁ u₂ : Transcript World} {idToken : Option Credential} {e : UmaError} :
      Walk (s.credential IdToken.name) u₁ (done (.ok idToken)) →
      Walk (Discovery.document c.server) u₂ (done (.error e)) →
      Acquired p c s (u₁ ++ u₂) (.error (.uma e))
  | exchanged {u₁ u₂ u₃ : Transcript World} {idToken : Option Credential} {m : Metadata}
      {v : Except AuthError Credential} :
      Walk (s.credential IdToken.name) u₁ (done (.ok idToken)) →
      Walk (Discovery.document c.server) u₂ (done (.ok m)) →
      Walk (p.exchange c s idToken m) u₃ (done v) → Acquired p c s (u₁ ++ (u₂ ++ u₃)) v

variable {p : TicketProvider} {c : TicketChallenge} {s : Session} {idToken : Option Credential}
  {m : Metadata} {u : Transcript World} {v : Except AuthError Credential}

/-- An exchange that ends has asked its questions, and has dated the token that was granted. -/
theorem exchanged_of_walk (h : Walk (p.exchange c s idToken m) u (done v)) :
    Exchanged p c s idToken m u v := by
  rcases Walk.of_bind_done h with ⟨answer, u₁, u₂, rfl, hrun, hrest⟩
  have hquestions : Walk ((p.questions c s idToken m).interpret
      (TicketExchange.inWorld s p.handlers)) u₁ (done answer) := hrun
  rcases hquestions.of_interpret_done with ⟨w, hw, hserved⟩
  cases answer with
  | error e =>
      rcases walk_done_iff.1 hrest with ⟨rfl, hv⟩
      cases hv
      rw [List.append_nil]
      exact .failed hw hserved
  | ok token =>
      rcases walk_ask_iff.1 hrest with ⟨_, hv⟩ | ⟨now, u₃, rfl, hdated⟩
      · cases hv
      · rcases walk_done_iff.1 hdated with ⟨rfl, hv⟩
        injection hv with hv
        subst hv
        -- the token lives as long as the server says, or for the default time
        cases hend : now.addSeconds? (token.expiresIn.getD TokenAnswer.defaultLifetime) with
        | none =>
            rw [TokenAnswer.expiration, hend]
            exact .overlong hw hserved hend
        | some expiration =>
            rw [TokenAnswer.expiration, hend]
            exact .granted hw hserved hend

theorem Exchanged.walk (h : Exchanged p c s idToken m u v) :
    Walk (p.exchange c s idToken m) u (done v) := by
  -- whatever the questions come to, the exchange asks them first
  have hrun : ∀ {w u answer}, Walk (p.questions c s idToken m) w (done answer) →
      Served (TicketExchange.inWorld s p.handlers) w u →
      Walk (TicketExchange.run p.rounds s m.tokenEndpoint
        { ticket := c.ticket, claim := idToken.map fun i => ⟨i.token, IdToken.name⟩ } p.handlers
        (s.selectThumbprint (Names.ofList m.dpopAlgorithms))) u (done answer) :=
    fun hw hserved => hw.interpret hserved
  cases h with
  | failed hw hserved => exact (hrun hw hserved).bind _
  | overlong hw hserved hend =>
      refine ((hrun hw hserved).bind _).append (.answered ?_)
      simp only [done_bind, TokenAnswer.expiration, hend]
      exact .here _
  | granted hw hserved hend =>
      refine ((hrun hw hserved).bind _).append (.answered ?_)
      simp only [done_bind, TokenAnswer.expiration, hend]
      exact .here _

theorem walk_exchange_iff :
    Walk (p.exchange c s idToken m) u (done v) ↔ Exchanged p c s idToken m u v :=
  ⟨exchanged_of_walk, Exchanged.walk⟩

/-- The acquisitions that end are the complete acquisitions. -/
theorem walk_acquire_iff : Walk (p.acquire c s) u (done v) ↔ Acquired p c s u v := by
  constructor
  · intro h
    rcases Walk.of_bind_done h with ⟨idToken, u₁, u₂, rfl, hidentity, hrest⟩
    cases idToken with
    | error e =>
        rcases walk_done_iff.1 hrest with ⟨rfl, hv⟩
        cases hv
        rw [List.append_nil]
        exact .unidentified hidentity
    | ok idToken =>
        rcases Walk.of_bind_done hrest with ⟨document, u₃, u₄, rfl, hdocument, hexchange⟩
        cases document with
        | error e =>
            rcases walk_done_iff.1 hexchange with ⟨rfl, hv⟩
            cases hv
            rw [List.append_nil]
            exact .undiscovered hidentity hdocument
        | ok m => exact .exchanged hidentity hdocument hexchange
  · intro h
    -- an error of a part is the value of all that follows it
    cases h with
    | unidentified hidentity => exact hidentity.bind _
    | undiscovered hidentity hdocument => exact (hidentity.bind _).append (hdocument.bind _)
    | exchanged hidentity hdocument hexchange =>
        exact (hidentity.bind _).append ((hdocument.bind _).append hexchange)

end TicketProvider
end Countersign
