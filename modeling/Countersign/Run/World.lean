import Countersign.Error
import Countersign.Message
import Countersign.Run.Program
import Countersign.Session.Cache
import Countersign.Uma.Documents

/-!
# The world that programs run in

Programs share one store: each session has a slot for its long-lived credential, a lock that
serializes refreshes of the slot, and a cache of negotiated credentials; and there is one cache
of discovery documents.  Every action on the store is atomic and an operation of its own, so an
interleaving of programs is a sequence of these operations.  Everything else — the transport, the
clock, random octets, files, the source of fresh tokens — lies outside.

* `Vault`, `Store` — what is shared;
* `Act` — the operations, with `Act.Answer`;
* `Act.onStore` — what an action does to the store, and whether it has to wait;
* `World` — the interface of all programs of this library;
* `Run.alone`, `Run.transmitted` — what a program comes to that runs alone, and what it sends.
-/

namespace Countersign

/-- Sessions are told apart by number. -/
abbrev SessionId := Nat

/-- The state of a slot. The generation counts completed refreshes and clears. -/
structure SlotState where
  credential : Option Credential := none
  generation : Nat := 0
  /-- The wording of the failure in which the latest refresh ended. -/
  lastFailure : Option String := none
deriving DecidableEq, Repr, Inhabited

namespace SlotState

/-- The state after a refresh with the given outcome. A failure keeps the credential. -/
def settled (s : SlotState) : Except String (Option Credential) → SlotState
  | .ok credential =>
    { credential, generation := s.generation + 1, lastFailure := none }
  | .error reason => { s with generation := s.generation + 1, lastFailure := some reason }

def cleared (s : SlotState) : SlotState := { generation := s.generation + 1 }

end SlotState

/-- What a session keeps. -/
structure Vault where
  slot : SlotState := {}
  /-- Whether the refresh lock is held. -/
  locked : Bool := false
  cache : CredentialCache := {}

/-- What all programs share. -/
structure Store where
  vault : SessionId → Vault := fun _ => {}
  documents : Keyed Metadata := {}

namespace Store

def update (s : Store) (id : SessionId) (f : Vault → Vault) : Store :=
  { s with vault := fun i => if i = id then f (s.vault i) else s.vault i }

theorem update_vault (s : Store) (i id : SessionId) (f : Vault → Vault) :
    (s.update i f).vault id = if id = i then f (s.vault id) else s.vault id := rfl

@[simp] theorem update_vault_self (s : Store) (id : SessionId) (f : Vault → Vault) :
    (s.update id f).vault id = f (s.vault id) := by simp [update]

theorem update_vault_ne (s : Store) {id other : SessionId} (h : other ≠ id) (f : Vault → Vault) :
    (s.update id f).vault other = s.vault other := by simp [update, h]

end Store

/-- An operation of a program. -/
inductive Act where
  /-- Sets up what a new session keeps. -/
  | establish (session : SessionId) (settings : CacheSettings) (credential : Option Credential)
  /-- Hands a request to the transport. -/
  | transmit (request : Request)
  /-- Reads the clock. -/
  | clock
  /-- Draws random octets; the source may run dry and give fewer. -/
  | entropy (count : Nat)
  /-- Asks a session's source of tokens for a fresh one. -/
  | freshToken (session : SessionId)
  /-- Lets other programs go on. -/
  | pause
  /-- Writes a line to the log. -/
  | note (line : String)
  /-- Reads a file. -/
  | fileAt (path : String)
  /-- Reads a slot, and the clock. -/
  | look (session : SessionId)
  /-- Takes the refresh lock, as soon as it is free. -/
  | acquire (session : SessionId)
  /-- Gives the refresh lock back. -/
  | release (session : SessionId)
  /-- Writes the outcome of a refresh into the slot, and reads the clock. -/
  | settle (session : SessionId) (outcome : Except String (Option Credential))
  /-- Clears the slot. -/
  | forget (session : SessionId)
  /-- Looks up a cached credential, and reads the clock. -/
  | recall (session : SessionId) (key : String)
  /-- Drops a cached credential. -/
  | discard (session : SessionId) (key : String)
  /-- Caches a credential. -/
  | retain (session : SessionId) (key : String) (credential : Credential)
  /-- Empties the cache. -/
  | wipe (session : SessionId)
  /-- Looks up a discovery document. -/
  | document (location : String)
  /-- Caches a discovery document. -/
  | keepDocument (location : String) (metadata : Metadata)

namespace Act

abbrev Answer : Act → Type
  | .transmit _ => Except TransportError Response
  | .clock => Instant
  | .entropy _ => Bytes
  | .freshToken _ => Except AuthError String
  | .fileAt _ => Except FileFault Bytes
  | .look _ => SlotState × Instant
  | .settle _ _ => Instant
  | .recall _ _ => Option Credential × Instant
  | .document _ => Option Metadata
  | _ => Unit

def waits (s : Store) : Act → Bool
  | acquire id => (s.vault id).locked
  | _ => false

/-- What an action does to the store. -/
def onStore (s : Store) : Act → Store
  | establish id settings credential =>
    s.update id fun _ => { slot := { credential }, cache := CredentialCache.ofSettings settings }
  | acquire id => s.update id fun v => { v with locked := true }
  | release id => s.update id fun v => { v with locked := false }
  | settle id outcome => s.update id fun v => { v with slot := v.slot.settled outcome }
  | forget id => s.update id fun v => { v with slot := v.slot.cleared }
  | discard id key => s.update id fun v => { v with cache := v.cache.erase key }
  | retain id key c => s.update id fun v => { v with cache := v.cache.insert key c }
  | wipe id => s.update id fun v => { v with cache := v.cache.clear }
  | keepDocument location m => { s with documents := s.documents.insert location m }
  | _ => s

end Act

/-- The interface of all programs of this library. -/
abbrev World : Interface := ⟨Act, Act.Answer⟩

abbrev Run (α : Type) := Program World α

/-- What answers the operations that lie outside the store. -/
structure Outside (σ : Type) where
  transmit : Request → σ → Except TransportError Response × σ
  clock : σ → Instant
  entropy : Nat → σ → Bytes × σ
  freshToken : SessionId → σ → Except AuthError String × σ
  note : String → σ → σ
  fileAt : String → σ → Except FileFault Bytes

/-- An outside in which time stands still, and nothing is answered but requests. -/
def Outside.still (answer : Request → Except TransportError Response) : Outside Unit where
  transmit r w := (answer r, w)
  clock _ := ⟨0, 0⟩
  entropy _ w := ([], w)
  freshToken _ w := (.error (.refresh ""), w)
  note _ w := w
  fileAt _ _ := .error .notFound

/-- The answer to an operation, and what is outside the store after it. -/
def Outside.answer {σ : Type} (o : Outside σ) (s : Store) (w : σ) : (a : Act) → a.Answer × σ
  | .establish _ _ _ => ((), w)
  | .transmit r => o.transmit r w
  | .clock => (o.clock w, w)
  | .entropy n => o.entropy n w
  | .freshToken id => o.freshToken id w
  | .pause => ((), w)
  | .note line => ((), o.note line w)
  | .fileAt path => (o.fileAt path w, w)
  | .look id => (((s.vault id).slot, o.clock w), w)
  | .acquire _ => ((), w)
  | .release _ => ((), w)
  | .settle _ _ => (o.clock w, w)
  | .forget _ => ((), w)
  | .recall id key => (((s.vault id).cache.find? key, o.clock w), w)
  | .discard _ _ => ((), w)
  | .retain _ _ _ => ((), w)
  | .wipe _ => ((), w)
  | .document location => (s.documents.find? location, w)
  | .keepDocument _ _ => ((), w)

/-- One step of a program that runs alone: the answer, and the store and the outside after it. -/
def Outside.step {σ : Type} (o : Outside σ) (a : World.Op) (sw : Store × σ) :
    World.Answer a × (Store × σ) :=
  let r := o.answer sw.1 sw.2 a
  (r.1, (Act.onStore sw.1 a, r.2))

def Run.alone {σ α : Type} (o : Outside σ) (p : Run α) (sw : Store × σ) : α × (Store × σ) :=
  p.run o.step sw

/-- The request that a question hands to the transport, if it does. -/
def Act.request? : Act → Option Request
  | .transmit r => some r
  | _ => none

/-- The requests that a run hands to the transport, in order. -/
def Run.transmitted {σ α : Type} (o : Outside σ) (p : Run α) (sw : Store × σ) : List Request :=
  (p.trace o.step sw).filterMap Act.request?

end Countersign
