import Mathlib
import StoreClient.Proofs.Exchange

/-!
# Connections that there can be

A connection is opened over a byte stream and then used: frames are sent and read, operations are
carried over it, it is closed. Whatever is done with it (`Connection.Reachable`), a fault that waits
behind its frames has broken it (`Connection.Reachable.marked`). So one that can be used and shows
no input holds none at all (`Connection.Reachable.inStep`).
-/

namespace StoreClient

open Operation (Event)

/-- A connection that was opened and has been used in any way since. -/
inductive Connection.Reachable : Connection → Prop where
  | opened (id : Nat) (host : HostId) (maxFrameLength : UInt32) :
    Reachable (.ofStream id host maxFrameLength)
  | addressed {c : Connection} (address : Address) :
    Reachable c →
    Reachable { c with address := some address }
  | sent {c : Connection} (result : Except Fault Unit) :
    Reachable c →
    Reachable (c.afterSending result)
  | read {c : Connection} (answer : Completion) :
    Reachable c →
    Reachable (c.afterReading answer).1
  | taken {c c' : Connection} {result : Except Fault Frame} :
    Reachable c →
    c.next? = some (result, c') →
    Reachable c'
  | closed {c : Connection} :
    Reachable c →
    Reachable c.close
  | started {c : Connection} (o : Operation) :
    Reachable c →
    Reachable (Exchange.start c o).connection
  | resumed {x : Exchange} (answer : Completion) :
    Reachable x.connection →
    Reachable (x.resume answer).connection
  | expired {x : Exchange} :
    Reachable x.connection →
    Reachable x.expire.connection

/-- A fault that waits behind the frames has broken the connection. -/
def Connection.Marked (c : Connection) : Prop := c.deferred ≠ none → c.broken = true

namespace Connection

variable {c : Connection}

/-- A fault among the bytes of a read breaks the connection. -/
lemma Marked.receive (h : c.Marked) (chunk : Bytes) : (c.receive chunk).Marked := by
  intro waits
  unfold Connection.receive at *
  dsimp only at *
  cases e : (c.decoder.feed chunk).fault with
  | some fault => simp
  | none => simpa using h (by simpa [e] using waits)

/-- What comes of sending leaves no fault waiting unmarked. -/
lemma Marked.afterSending (h : c.Marked) (result : Except Fault Unit) :
    (c.afterSending result).Marked := by
  cases result with
  | ok u => exact h
  | error fault => exact fun _ => rfl

/-- What comes of reading leaves no fault waiting unmarked. -/
lemma Marked.afterReading (h : c.Marked) (answer : Completion) :
    (c.afterReading answer).1.Marked := by
  unfold Connection.afterReading
  split
  · exact fun _ => rfl
  · exact h.receive _
  · exact fun _ => rfl
  · exact h

end Connection

namespace Exchange

/-- The end of an exchange leaves no fault waiting unmarked. -/
lemma finish_marked {c : Connection} (h : c.Marked) (o : Operation) (events : List Event)
    (outcome : Except Fault Unit) : (finish c o events outcome).connection.Marked := by
  unfold finish Turn.connection
  cases outcome with
  | ok u =>
    dsimp only
    split
    · exact fun _ => rfl
    · exact h
  | error fault =>
    dsimp only
    split
    · exact fun _ => rfl
    · exact h

/-- The frames of a read leave no fault waiting unmarked. -/
lemma drain_marked {c : Connection} (h : c.Marked) (o : Operation) (events : List Event)
    (frames : List Frame) : (drain c o events frames).connection.Marked := by
  induction frames generalizing o events with
  | nil =>
    unfold drain
    split
    · exact finish_marked (c := { c with ready := [], deferred := none })
        (fun waits => absurd rfl waits)
        _ _ _
    · exact h
  | cons frame frames ih =>
    simp only [drain]
    split
    · exact finish_marked (c := { c with ready := frames }) h _ _ _
    · exact ih _ _
    · exact finish_marked (c := { c with ready := frames }) h _ _ _
    · exact finish_marked (c := { c with ready := frames, lastServerError := _ }) h _ _ _

/-- The beginning of an exchange leaves no fault waiting unmarked. -/
lemma start_marked {c : Connection} (h : c.Marked) (o : Operation) :
    (start c o).connection.Marked := by
  unfold start
  split
  · exact h
  · split
    · exact h
    · split
      · exact fun _ => rfl
      · dsimp only
        split
        · exact finish_marked (c := { c with inFlight := true }) h _ _ _
        · exact h

/-- An answer of the transport leaves no fault waiting unmarked. -/
lemma resume_marked {x : Exchange} (h : x.connection.Marked) (answer : Completion) :
    (x.resume answer).connection.Marked := by
  unfold resume
  split
  · split
    · exact h
    · rename_i result _
      have after := h.afterSending result
      cases result with
      | ok u => exact drain_marked after _ _ _
      | error fault => exact finish_marked after _ _ _
  · have after := h.afterReading answer
    split
    · rename_i e
      rw [e] at after
      exact finish_marked after _ _ _
    · rename_i e
      rw [e] at after
      exact drain_marked after _ _ _

end Exchange

namespace Connection

variable {c : Connection}

/-- However a connection has been used, a fault that waits in it has broken it. -/
lemma Reachable.marked (r : c.Reachable) : c.Marked := by
  induction r with
  | opened id host maxFrameLength => exact fun waits => absurd rfl waits
  | addressed address _ ih => exact ih
  | sent result _ ih => exact ih.afterSending result
  | read answer _ ih => exact ih.afterReading answer
  | taken _ e ih =>
    unfold next? at e
    split at e
    · cases e
      exact ih
    · cases e
      exact fun waits => absurd rfl waits
    · cases e
  | @closed c _ ih =>
    unfold close
    split
    · exact ih
    · exact fun waits => absurd rfl waits
  | started o _ ih => exact Exchange.start_marked ih o
  | resumed answer _ ih => exact Exchange.resume_marked ih answer
  | expired _ ih => exact Exchange.finish_marked ih _ _ _

/-- A connection that can be used and shows no input holds none at all. -/
lemma Reachable.inStep (r : c.Reachable) (usable : c.isUsable = true)
    (unbuffered : c.hasBufferedInput = false) : c.InStep := by
  obtain ⟨whole, _, _⟩ := isUsable_iff.1 usable
  simp only [hasBufferedInput, Bool.or_eq_false_iff, Bool.not_eq_false', List.isEmpty_iff]
    at unbuffered
  refine ⟨unbuffered.1, unbuffered.2, ?_⟩
  by_contra waits
  rw [r.marked waits] at whole
  cases whole

end Connection

end StoreClient
