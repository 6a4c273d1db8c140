import Countersign.Run.World

/-!
# The long-lived credential

A session's long-lived credential is refreshed by one program at a time.  A program that finds it
expired queues for the refresh lock; once it holds the lock it refreshes only if nothing has been
written since it first looked, and otherwise shares what was written.

* `Slot.getOrRefresh` — the live credential, refreshed if need be;
* `Slot.last` — the stored credential even when expired;
* `Slot.clear` — forgets the credential.
-/

namespace Countersign
namespace Slot

open Program

/-- What a program shares that queued behind another refresh. -/
def shared (state : SlotState) (now : Instant) : Except AuthError (Option Credential) :=
  match state.lastFailure with
  | some reason => .error (.refresh reason)
  | none => .ok (Credential.liveAt now state.credential)

/-- The wording of a failure takes its place in the slot. -/
def outcomeText (outcome : Except AuthError (Option Credential)) :
    Except String (Option Credential) :=
  outcome.mapError AuthError.message

/-- What the program that refreshed gets. -/
def own (outcome : Except AuthError (Option Credential)) (now : Instant) :
    Except AuthError (Option Credential) :=
  outcome.map (Credential.liveAt now)

/-- The part under the lock: `generation` is what the program saw before it queued. -/
def underLock (id : SessionId) (generation : Nat)
    (refresh : Run (Except AuthError (Option Credential))) :
    Run (Except AuthError (Option Credential)) := do
  let (state, now) ← perform (I := World) (.look id)
  -- another refresh has ended, or a clear has happened, while this program queued
  if state.generation ≠ generation then
    perform (I := World) (.release id)
    return shared state now
  let outcome ← refresh
  let now ← perform (I := World) (.settle id (outcomeText outcome))
  perform (I := World) (.release id)
  return own outcome now

/-- The live credential, refreshed if need be. -/
def getOrRefresh (id : SessionId) (refresh : Run (Except AuthError (Option Credential))) :
    Run (Except AuthError (Option Credential)) := do
  let (state, now) ← perform (I := World) (.look id)
  match Credential.liveAt now state.credential with
  | some c => return .ok (some c)
  | none =>
    -- the generation of this first look decides later whether the refresh is still needed
    perform (I := World) (.acquire id)
    underLock id state.generation refresh

/-- The stored credential even when expired. -/
def last (id : SessionId) : Run (Option Credential) := do
  let (state, _) ← perform (I := World) (.look id)
  return state.credential

def clear (id : SessionId) : Run Unit := perform (I := World) (.forget id)

end Slot

namespace CredentialCache

open Program

/-- The live credential cached for a resource; an expired one is dropped. -/
def get (id : SessionId) (uri : Url) : Run (Option Credential) := do
  let (found, now) ← perform (I := World) (.recall id (key uri))
  match found with
  | none => return none
  | some c =>
    if c.isExpiredAt now then
      perform (I := World) (.discard id (key uri))
      return none
    else return some c

/-- Caches a credential for a resource. -/
def put (id : SessionId) (uri : Url) (c : Credential) : Run Unit :=
  perform (I := World) (.retain id (key uri) c)

/-- Empties the cache. -/
def clear (id : SessionId) : Run Unit := perform (I := World) (.wipe id)

end CredentialCache
end Countersign
