import StoreClient.Operation

/-!
# Callbacks

A listener made of two callbacks, one for answers and one for faults. The one for faults is used up
by its first call; further faults go unheard. Answers are always passed on.
-/

namespace StoreClient.Operation

/-- A pair of callbacks. -/
structure Callbacks where
  /-- Whether the callback for faults has not been called. -/
  faultPending : Bool := true
  deriving DecidableEq, Repr

/-- Passes an event on: the callbacks after it, and the event if a callback was called with it. -/
def Callbacks.hear (c : Callbacks) : Event → Callbacks × Option Event
  | event@(.response ..) => (c, some event)
  | event@(.fault _) => ({ faultPending := false }, if c.faultPending then some event else none)

end StoreClient.Operation
