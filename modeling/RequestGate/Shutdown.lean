/-!
# Shutdown signals

A shutdown is announced to everyone who has subscribed before.  Only the latest announcement is kept:
a subscriber that comes late is told once that it has missed some, and then gets the latest.
Announcements that nobody has subscribed to are dropped.
-/

namespace RequestGate

/-- Announcements and who waits for them. -/
structure Shutdown where
  /-- How many announcements were made. -/
  announced : Nat
  /-- For every subscriber in the order of subscription, how many announcements are behind it; none
  after it has gone. -/
  subscribers : List (Option Nat)
  deriving DecidableEq

namespace Shutdown

/-- What a subscriber finds when it looks. -/
inductive Found where
  | signal
  | nothing
  /-- Announcements were overwritten before the subscriber looked. -/
  | missed
  /-- There is no such subscriber, or it has gone. -/
  | gone
  deriving DecidableEq

/-- Nobody waits and nothing was announced. -/
def fresh : Shutdown :=
  ⟨0, []⟩

/-- How many subscribers wait. -/
def waiting (shutdown : Shutdown) : Nat :=
  shutdown.subscribers.countP Option.isSome

/-- With one more subscriber, which sees what is announced from now on. -/
def subscribe (shutdown : Shutdown) : Shutdown :=
  { shutdown with subscribers := shutdown.subscribers ++ [some shutdown.announced] }

/-- With one more announcement. -/
def trigger (shutdown : Shutdown) : Shutdown :=
  if shutdown.waiting = 0 then shutdown
  else { shutdown with announced := shutdown.announced + 1 }

/-- Without a subscriber. -/
def drop (shutdown : Shutdown) (index : Nat) : Shutdown :=
  { shutdown with subscribers := shutdown.subscribers.set index none }

/-- After a subscriber has looked, and what it found. -/
def poll (shutdown : Shutdown) (index : Nat) : Shutdown × Found :=
  let moveTo (seen : Nat) : Shutdown :=
    { shutdown with subscribers := shutdown.subscribers.set index (some seen) }
  match shutdown.subscribers[index]?.join with
  | none => (shutdown, .gone)
  | some seen =>
    if seen = shutdown.announced then (shutdown, .nothing)
    else if seen + 1 = shutdown.announced then (moveTo (seen + 1), .signal)
    else (moveTo (shutdown.announced - 1), .missed)

end Shutdown
end RequestGate
