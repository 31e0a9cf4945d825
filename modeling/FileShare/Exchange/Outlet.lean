import FileShare.Session.Session

/-!
# Where messages go

An exchange sends its messages into an `Outlet`: something that queues a message, tells whether
there is room for another one, and may be asked to move what is queued on. A session is one.

Whoever sends much is expected to look for room first; sending itself never refuses for want of it.
-/

namespace FileShare

/-- Something that takes messages. -/
class Outlet (ω : Type) where
  /-- Queue a message, and move on what can be moved. -/
  send : ω → Message → Except SessionError Unit × ω
  /-- Whether there is room for another message. -/
  hasSpace : ω → Bool
  /-- Move on what can be moved. -/
  flush : ω → Except SessionError Unit × ω
  /-- Whether the exchange has been told to stop. -/
  isCancelled : ω → Bool

instance {τ : Type} [Transport τ] : Outlet (Session τ) where
  send := Session.send
  hasSpace := Session.hasResponseSpace
  flush := Session.writeEvent
  isCancelled := Session.cancelled

end FileShare
