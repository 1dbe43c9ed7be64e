import StoreClient.Response

/-!
# Accumulators

An accumulator takes the fragments of an answer and says what is to be delivered when: either every
fragment as it comes, or the whole once, with the last fragment. It counts the fragments and their
elements, and refuses fragments behind the last one.
-/

namespace StoreClient

/-- How an answer is delivered. -/
inductive Delivery where
  /-- Once, complete. -/
  | merged
  /-- Fragment by fragment. -/
  | perFragment
  deriving DecidableEq, Repr

/-- The name of a delivery in reports. -/
def Delivery.name : Delivery → String
  | merged => "Merged"
  | perFragment => "PerFragment"

/-- The fragments of one answer so far. -/
structure Accumulator where
  delivery : Delivery
  /-- The merged answer, while it is held back. -/
  held : Option Response := none
  fragments : Nat := 0
  elements : Nat := 0
  done : Bool := false
  deriving DecidableEq, Repr

namespace Accumulator

/-- Joins a fragment to what is held. -/
def join (held : Option Response) (fragment : Response) : Except Fault Response :=
  match held with
  | none => .ok fragment
  | some whole => whole.merge fragment

/-- Takes a fragment, the last one if `done`: the accumulator after it, and what is to be delivered
now, if anything. A fragment counts from its arrival on, whether or not it can be joined. -/
def push (a : Accumulator) (fragment : Response) (done : Bool) :
    Accumulator × Except Fault (Option Response) :=
  if a.done then (a, .error (.format .fragmentAfterLast))
  else
    let a := { a with
      fragments := a.fragments + 1
      elements := a.elements + fragment.length
      done }
    match a.delivery with
    | .perFragment => (a, .ok (some fragment))
    | .merged =>
      match join a.held fragment with
      | .error fault => (a, .error fault)
      | .ok whole =>
        if done then ({ a with held := none }, .ok (some whole))
        else ({ a with held := some whole }, .ok none)

end Accumulator

end StoreClient
