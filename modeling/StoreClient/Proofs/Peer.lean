import Mathlib
import StoreClient.Proofs.Answer
import StoreClient.Proofs.Exchange
import StoreClient.Proofs.Request

/-!
# Peers

A peer is the other end of a connection. It takes the bytes that are written, answers the requests
that it has taken completely, one after the other, and sends nothing else (`Peer.May`); when it does
so, and how its bytes are cut when they are read, is left open.

A peer knows of each byte which call wrote it. Nothing depends on that; it is there to say for which
call an answer was produced (`Peer.Produced`).

While a call exchanges with a peer that was `Quiet` before, it is `Linked` to it: either the peer has
not answered and nothing has come, or it has answered this one request and all that comes is the
answer. Where the exchange leaves a connection that can be used, the peer is quiet again
(`Linked.quiet`), and an outcome that came from the peer is the answer produced for the call
(`Linked.produced`).
-/

namespace StoreClient

open Operation (Event Takes)
open Exchange (Underway Left Ending)

/-- An answer that was given. -/
structure Served where
  request : Frame
  answer : Answer
  /-- The frames that carry the answer. -/
  frames : List Frame

/-- The other end of a connection. -/
structure Peer where
  /-- The bytes that were written to it, each with the number of the call that wrote it. -/
  received : List (Nat × UInt8) := []
  /-- The answers that it has given, oldest first. -/
  served : List Served := []
  /-- What it has sent and nobody has read. -/
  unread : Bytes := []

namespace Peer

/-- The bytes of requests that were answered. -/
def requests (served : List Served) : Bytes := served.flatMap (·.request.bytes)

/-- A peer may answer the request behind those that it has answered, once it has taken it completely,
with a complete answer to a request of that kind. -/
structure May (p : Peer) (s : Served) : Prop where
  fits : s.request.Fits
  complete : requests p.served ++ s.request.bytes <+: p.received.map Prod.snd
  carried : ∃ r : Request, r.tag.byte = s.request.tag ∧ s.answer.Carried r.responseKind s.frames

/-- The peer once it has answered. -/
def answer (p : Peer) (s : Served) : Peer :=
  { p with served := p.served ++ [s], unread := p.unread ++ s.frames.flatMap Frame.bytes }

/-- What the transport may answer to the call of this number, and what it makes of the peer. -/
inductive Completes (number : Nat) (p : Peer) : Await → Completion → Peer → Prop where
  | wrote (bytes : Bytes) (count : Nat) :
    Completes number p (.write bytes) (.wrote count)
      { p with received := p.received ++ (bytes.take count).map (number, ·) }
  | flushed : Completes number p .flush .flushed p
  | received (chunk rest : Bytes) :
    chunk ≠ [] →
    p.unread = chunk ++ rest →
    Completes number p .read (.received chunk) { p with unread := rest }
  /-- The byte stream has ended, whatever is left unread. -/
  | ended : Completes number p .read (.received []) p
  | failed (await : Await) (cause : String) : Completes number p await (.failed cause) p

/-- The answer was given to the request of this call: all bytes of the request were written by this
call, right behind those of the requests answered before. -/
def Produced (p : Peer) (number : Nat) (request : Frame) (answer : Answer) : Prop :=
  ∃ before s after earlier later,
    p.served = before ++ s :: after ∧
      p.received = earlier ++ request.bytes.map (number, ·) ++ later ∧
      earlier.map Prod.snd = requests before ∧
      s.request = request ∧ s.answer = answer

/-! ### Peers over time -/

/-- A peer takes more bytes and gives more answers. -/
structure Grows (p p' : Peer) : Prop where
  served : p.served <+: p'.served
  received : p.received <+: p'.received

/-- An answer stays given while the peer goes on. -/
lemma Produced.grows {p p' : Peer} {number : Nat} {request : Frame} {answer : Answer}
    (h : p.Produced number request answer) (g : p.Grows p') : p'.Produced number request answer := by
  obtain ⟨before, s, after, earlier, later, served, received, own, same⟩ := h
  obtain ⟨served', e⟩ := g.served
  obtain ⟨received', e'⟩ := g.received
  refine ⟨before, s, after ++ served', earlier, later ++ received', ?_, ?_, own, same⟩
  · rw [← e, served]
    simp
  · rw [← e', received]
    simp

/-- An answer of the transport takes nothing back from a peer. -/
lemma Completes.grows {p p' : Peer} {number : Nat} {await : Await} {completion : Completion}
    (c : p.Completes number await completion p') : p.Grows p' := by
  cases c with
  | wrote bytes count => exact ⟨List.prefix_rfl, List.prefix_append _ _⟩
  | flushed | received _ _ _ _ | ended | failed => exact ⟨List.prefix_rfl, List.prefix_rfl⟩

/-- An answer comes behind those before it. -/
lemma grows_answer (p : Peer) (s : Served) : p.Grows (p.answer s) :=
  ⟨List.prefix_append _ _, List.prefix_rfl⟩

/-- Where one peer grows, all do. -/
lemma grows_update {peers : Nat → Peer} {n : Nat} {p : Peer} (g : (peers n).Grows p) (m : Nat) :
    (peers m).Grows (Function.update peers n p m) := by
  by_cases same : m = n
  · subst same
    rw [Function.update_self]
    exact g
  · rw [Function.update_of_ne same]
    exact ⟨List.prefix_rfl, List.prefix_rfl⟩

/-- A peer that has answered all that it has taken may not answer. -/
lemma May.not_taken {p : Peer} {s : Served} (may : p.May s)
    (taken : p.received.map Prod.snd = requests p.served) : False := by
  have len := may.complete.length_le
  have some_ := List.length_pos_iff.2 s.request.bytes_ne_nil
  rw [taken, List.length_append] at len
  omega

/-- All requests have been answered, and all answers have been read. -/
structure Quiet (p : Peer) : Prop where
  taken : p.received.map Prod.snd = requests p.served
  read : p.unread = []

/-- How far a peer is with the request of the call of this number, whose exchange has this traffic.
-/
inductive Linked (p : Peer) (number : Nat) (request : Frame) (t : Traffic) : Prop where
  /-- It has answered all requests before, and nothing has come. -/
  | unanswered {earlier} :
    earlier.map Prod.snd = requests p.served →
    p.received = earlier ++ t.accepted.map (number, ·) →
    t.received = [] →
    p.unread = [] →
    Linked p number request t
  /-- It has answered the request, and all that comes is the answer. -/
  | answered {before s earlier} {r : Request} :
    p.served = before ++ [s] →
    earlier.map Prod.snd = requests before →
    p.received = earlier ++ request.bytes.map (number, ·) →
    s.request = request →
    r.tag.byte = request.tag →
    s.answer.Carried r.responseKind s.frames →
    t.accepted = request.bytes →
    t.received ++ p.unread = s.frames.flatMap Frame.bytes →
    Linked p number request t

section Linked

variable {p p' : Peer} {number : Nat} {request : Frame} {t t' : Traffic}

/-- A quiet peer is linked to a call that begins. -/
lemma Quiet.linked (q : p.Quiet) : p.Linked number request [] :=
  .unanswered q.taken (by simp) rfl q.read

/-- A link lasts where no byte goes over it. -/
lemma Linked.still (link : p.Linked number request t) (sent : t'.accepted = t.accepted)
    (got : t'.received = t.received) : p.Linked number request t' := by
  cases link with
  | unanswered own taken nothing read =>
    exact .unanswered own (sent ▸ taken) (got.trans nothing) read
  | answered served own taken same tag carried out bytes =>
    exact .answered served own taken same tag carried (sent.trans out) (got ▸ bytes)

/-- Nothing is written or read where an exchange is cut off. -/
lemma Linked.cutOff (link : p.Linked number request t) (await : Await) :
    p.Linked number request (t ++ [(await, none)]) := by
  apply link.still
  · simp [Traffic.accepted]
  · simp [Traffic.received]

/-- A link lasts where the peer answers: it answers this request, and only this. -/
lemma Linked.answer (link : p.Linked number request t) (fits : request.Fits)
    (sent : t.accepted <+: request.bytes) {s : Served} (may : p.May s) :
    (p.answer s).Linked number request t := by
  cases link with
  | @unanswered earlier own taken nothing read =>
    have complete := may.complete
    have all : p.received.map Prod.snd = requests p.served ++ t.accepted := by
      rw [taken, List.map_append, own]
      simp [Function.comp_def]
    rw [all, List.prefix_append_right_inj] at complete
    -- No byte but those of this request is unanswered, and a frame is the beginning of one other at
    -- most: itself.
    obtain ⟨rest, e⟩ := complete.trans sent
    obtain ⟨same, none_⟩ := Frame.bytes_append_inj may.fits fits (b := []) (by simpa using e)
    have whole : t.accepted = request.bytes := by
      rw [← same] at sent ⊢
      exact sent.eq_of_length_le complete.length_le
    obtain ⟨r, tag, carried⟩ := may.carried
    refine .answered rfl own (whole ▸ taken) same (same ▸ tag) carried whole ?_
    simp [Peer.answer, nothing, read]
  | answered served own taken same tag carried out bytes =>
    -- The exchange writes nothing behind its request, so there is nothing more to answer.
    refine (may.not_taken ?_).elim
    rw [taken, List.map_append, own, served]
    simp [requests, same, Function.comp_def]

/-- A link lasts where the transport answers and the exchange goes on. -/
lemma Linked.completes {o : Operation} {x : Exchange} {heard : List Event}
    {completion : Completion} (link : p.Linked number o.request.frame t)
    (u : Underway o x t heard) (c : p.Completes number x.await completion p') :
    p'.Linked number o.request.frame (t ++ [(x.await, some completion)]) := by
  generalize await : x.await = asked at c
  cases c with
  | wrote bytes count =>
    cases link with
    | unanswered own taken nothing read =>
      refine .unanswered own ?_ (by simpa [Traffic.received] using nothing) read
      simp [taken, Traffic.accepted]
    | answered served own taken same tag carried out bytes => exact absurd out (u.writing await)
  | flushed => exact link.still (by simp [Traffic.accepted]) (by simp [Traffic.received])
  | received chunk rest some_ unread =>
    cases link with
    -- Before the answer there is nothing to read.
    | unanswered own taken nothing read => simp [read, some_] at unread
    | answered served own taken same tag carried out bytes =>
      refine .answered served own taken same tag carried ?_ ?_
      · simpa [Traffic.accepted] using out
      · rw [← bytes, unread]
        simp [Traffic.received]
  | ended => exact link.still (by simp [Traffic.accepted]) (by simp [Traffic.received])
  | failed =>
    refine link.still ?_ ?_
    · cases asked <;> simp [Traffic.accepted]
    · cases asked <;> simp [Traffic.received]

/-- Where the frames that have come bring the outcome, they are the whole answer to this request, and
nothing is left to come. -/
lemma Linked.complete {request : Request} {delivery : Delivery} {taken : List Frame} {last : Frame}
    {rest : Bytes} {o q : Operation} {told events : List Event} {progress : Operation.Progress}
    (link : p.Linked number request.encode.frame t)
    (bytes : t.received = (taken ++ [last]).flatMap Frame.bytes ++ rest)
    (fits : ∀ f ∈ taken ++ [last], f.Fits)
    (tk : Takes (Operation.ofRequest request delivery).beginSend.operation taken o told)
    (e : o.onFrame last = { operation := q, events, result := .ok progress })
    (outcome : progress ≠ .more) :
    p.Quiet ∧ ∃ answer,
      p.Produced number request.encode.frame answer ∧ answer.Told delivery (told ++ events) := by
  cases link with
  | unanswered own taken nothing read =>
    rw [nothing] at bytes
    simp [last.bytes_ne_nil] at bytes
  | @answered before s earlier r served own all same tag carried out sent =>
    have kind : r.responseKind = request.responseKind := Request.responseKind_of_byte tag
    -- The frames that were taken are the first of the answer, and with the outcome they are all.
    rw [bytes, List.append_assoc] at sent
    obtain ⟨more, frames, left⟩ := Frame.eq_append_of_flatMap_bytes fits carried.fits sent
    rw [kind, frames, List.append_assoc, List.singleton_append] at carried
    obtain ⟨rfl, told_⟩ := carried.complete tk e outcome
    refine ⟨⟨?_, ?_⟩, s.answer, ⟨before, s, [], earlier, [], served, ?_, own, same, rfl⟩, told_⟩
    · rw [all, List.map_append, own, served]
      simp [requests, same, Function.comp_def]
    · have none_ : rest ++ p.unread = [] := left
      simp_all
    · simpa using all

/-- A peer is quiet again behind an exchange that leaves a connection that can be used. -/
lemma Linked.quiet {request : Request} {delivery : Delivery} {e : Exchange.Ended}
    {heard : List Event} (link : p.Linked number request.encode.frame t)
    (left : Left (.ofRequest request delivery) e t heard) (usable : e.connection.isUsable = true) :
    p.Quiet := by
  cases left.ending with
  | unbegun none_ _ =>
    subst none_
    cases link with
    | unanswered own taken _ read =>
      refine ⟨?_, read⟩
      rw [taken, List.map_append, own]
      simp
    | answered _ _ _ _ _ _ out _ => exact absurd out.symm (Frame.bytes_ne_nil _)
  | faulted _ _ _ _ _ _ lost => exact absurd usable (by simp [lost])
  | answered _ _ _ bytes fits tk e outcome _ _ => exact (link.complete bytes fits tk e outcome).1

/-- While the exchange waits, its listener has heard of no end of an answer. -/
lemma not_isAnswer_of_underway {request : Request} {delivery : Delivery} {x : Exchange}
    {heard : List Event} (u : Underway (.ofRequest request delivery) x t heard) :
    ∀ e ∈ heard, ¬ e.IsAnswer := by
  obtain ⟨taken, _, tk⟩ := u.answer
  exact Answer.not_isAnswer_of_takes ⟨rfl, rfl⟩ rfl tk

/-- An outcome that came from the peer is the answer that was produced for the call. -/
lemma Linked.produced {request : Request} {delivery : Delivery} {e : Exchange.Ended}
    {heard : List Event} (link : p.Linked number request.encode.frame t)
    (left : Left (.ofRequest request delivery) e t heard) (outcome : ∃ e ∈ heard, e.IsAnswer) :
    ∃ answer,
      p.Produced number request.encode.frame answer ∧ answer.Told delivery heard := by
  obtain ⟨event, m, isAnswer⟩ := outcome
  cases left.ending with
  | unbegun _ own =>
    obtain ⟨fault, rfl, own⟩ := own event m
    simp [Event.IsAnswer, own] at isAnswer
  | faulted fresh _ _ tk same own _ =>
    subst same
    rcases List.mem_append.1 m with old | new
    · exact absurd isAnswer (Answer.not_isAnswer_of_takes ⟨rfl, rfl⟩ rfl tk event old)
    · cases List.mem_singleton.1 new
      simp [Event.IsAnswer, own] at isAnswer
  | answered _ _ _ bytes fits tk e outcome same _ =>
    subst same
    exact (link.complete bytes fits tk e outcome).2

end Linked

end Peer

end StoreClient
