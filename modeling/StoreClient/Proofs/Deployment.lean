import Mathlib
import StoreClient.Simulation.Deployment
import StoreClient.Proofs.Faults

/-!
# Clients in a network

What a deployment does to its client may happen to any client (`Client.Moves`): the network answers
what the calls wait for, time passes, callers drop their calls, and where a byte stream cannot be
opened, the host has no address or cannot be connected to (`Site.kind_of_reach`). So what holds of
every client, whatever happens to it, holds of the clients that run in a network. The headline is
`Deployment.blameless_of_ofConfig`.
-/

namespace StoreClient

open Client (Moves)

/-- A resolver fails only where it finds no address. -/
lemma Resolver.kind_of_resolve {r : Resolver} {id : HostId} {fault : Fault}
    (e : r.resolve id = .error fault) : fault.kind = .unresolved := by
  unfold Resolver.resolve at e
  split at e
  · split at e
    · cases e
    · cases e
      rfl
  · split at e
    · cases e
    · cases e
      rfl

namespace Simulation

/-- Where a byte stream cannot be opened, there is no address, or nothing is reached there. -/
lemma Site.kind_of_reach {s : Site} {connection : Nat} {host : HostId} {fault : Fault}
    (e : s.reach connection host = .failed fault) :
    fault.kind = .unresolved ∨ fault.kind = .connect := by
  unfold Site.reach at e
  split at e
  · rename_i unresolved
    cases e
    exact .inl (Resolver.kind_of_resolve unresolved)
  · split at e
    · cases e
    · cases e
      exact .inr rfl
    · cases e

namespace Deployment

/-- Whatever happens to the client of a deployment may happen to any client. -/
lemma moves_step (d : Deployment) {input : Client.Input}
    (unopened : ∀ number fault, input = .connected number (.error fault) →
      fault.kind = .unresolved ∨ fault.kind = .connect) :
    Moves d.client (d.step input).client :=
  .input input unopened

/-- Only a byte stream that cannot be opened may be at fault. -/
lemma moves_step_of_failed (d : Deployment) (number : Nat) {fault : Fault}
    (failed : fault.kind = .unresolved ∨ fault.kind = .connect) :
    Moves d.client (d.step (.connected number (.error fault))).client := by
  apply d.moves_step
  rintro _ _ ⟨⟩
  exact failed

/-- To let a call run is to let the client move. -/
lemma settle_reaches (number steps : Nat) (d : Deployment) :
    Relation.ReflTransGen Moves d.client (settle number steps d).client := by
  induction steps generalizing d with
  | zero => exact .refl
  | succ steps ih =>
    unfold settle
    split
    · exact .refl
    · split
      · rename_i address site _
        exact .head (moves_step { d with site } (by simp)) (ih _)
      · rename_i failed
        exact .head (d.moves_step_of_failed number (Site.kind_of_reach failed)) (ih _)
      · exact .refl
    · split
      · rename_i completion network _
        exact .head (moves_step { d with site := { d.site with network } } (by simp)) (ih _)
      · exact .refl

/-- To cut a call off is to let the client move. -/
lemma cutOff_reaches (d : Deployment) (number : Nat) (cancellation : Option Nat) :
    Relation.ReflTransGen Moves d.client (d.cutOff number cancellation).client := by
  unfold cutOff
  split
  · exact .refl
  · split
    · dsimp only
      split
      · exact .single (d.moves_step_of_failed number (.inr rfl))
      · exact .single (d.moves_step (by simp))
      · exact .refl
    · exact .refl
  · dsimp only
    split
    · exact .single (d.moves_step (by simp))
    · exact .single (d.moves_step (by simp))
    · exact .refl

/-- A call that runs to its end in a network is a sequence of such moves. -/
lemma call_reaches (d : Deployment) (request : Request) (delivery : Delivery)
    (cancellation : Option Nat) :
    Relation.ReflTransGen Moves d.client (d.call request delivery cancellation).1.client :=
  .head (d.moves_step (by simp)) ((settle_reaches _ _ _).trans (cutOff_reaches _ _ _))

/-- The pool of a deployment is built by opening byte streams at its site. -/
lemma built_of_ofConfig {s : Site} {config : Config} {d : Deployment}
    (made : ofConfig s config = some (.ok d)) :
    d.client = { pool := d.client.pool, operationTimeout := config.operationTimeout } ∧
      s.buildPool config = some (.ok d.client.pool, d.site) := by
  unfold ofConfig at made
  obtain ⟨⟨built, site⟩, e, made⟩ := Option.map_eq_some_iff.1 made
  cases built with
  | error fault => cases made
  | ok pool =>
    cases made
    exact ⟨rfl, e⟩

/-- Calls that are made one after the other, each of which may be dropped after some time. -/
def callAll (d : Deployment) (calls : List (Request × Delivery × Option Nat)) : Deployment :=
  calls.foldl (fun d (request, delivery, cancellation) =>
    (d.call request delivery cancellation).1) d

/-- To make calls in turn is to let the client move. -/
lemma callAll_reaches (d : Deployment) (calls : List (Request × Delivery × Option Nat)) :
    Relation.ReflTransGen Moves d.client (d.callAll calls).client := by
  induction calls generalizing d with
  | nil => exact .refl
  | cons call calls ih => exact (d.call_reaches _ _ _).trans (ih _)

/-- The calls of a client in a network give responses of their kinds and meet no faults of misuse,
whatever servers and scripts there are in the network. -/
theorem blameless_of_ofConfig {s : Site} {config : Config} {d : Deployment}
    (made : ofConfig s config = some (.ok d)) (calls : List (Request × Delivery × Option Nat))
    {number : Nat} {call : Call} (here : (d.callAll calls).client.calls[number]? = some call) :
    call.Blameless := by
  obtain ⟨start, built⟩ := built_of_ofConfig made
  have ready : d.client.Ready := by
    rw [start]
    exact Client.ready_start built _
  exact ((ready.reaches (d.callAll_reaches calls)).calls number call here).blameless

end Deployment

end Simulation

end StoreClient
