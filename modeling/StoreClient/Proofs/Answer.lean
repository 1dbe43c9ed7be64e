import Mathlib
import StoreClient.Proofs.Frame
import StoreClient.Proofs.Operation
import StoreClient.Proofs.Response

/-!
# Answers

A complete answer is a number of fragments and then the last one, or a refusal (`Answer`). Frames
carry it where each of them reads as its part of it. An operation that has taken frames up to its
outcome has told its listener of exactly the answer that they carry (`Told`), each fragment in turn
or the whole that they make, and those frames are all frames of the answer (`Carried.complete`).
-/

namespace StoreClient

open Operation (Event Takes Taken Awaiting Progress)

/-- Whether the listener is told of the last fragment of an answer, or of an error of the server. -/
def Operation.Event.IsAnswer : Event → Prop
  | .response _ done => done = true
  | .fault f => f.serverError?.isSome = true

/-- A complete answer to a request. -/
structure Answer where
  /-- The fragments before the last one, in order. -/
  fragments : List Response := []
  /-- The last fragment, or the error by which the request is refused. -/
  ending : Except ServerError Response

namespace Answer

/-- What the frames of the answer say in turn. -/
def readings (a : Answer) : List Reading :=
  a.fragments.map (.fragment · false) ++
    [match a.ending with
      | .ok last => .fragment last true
      | .error error => .refusal error]

/-- The end of what a listener is told of each fragment in turn. -/
def outcome (a : Answer) : Event :=
  match a.ending with
  | .ok last => .response last true
  | .error error => .fault (.server error)

/-- What a listener is told of the answer: every fragment in turn and then the ending, or only the
whole that the fragments make, in which the elements of all stand in order. Of an answer that ends
in a refusal there is no whole. -/
inductive Told (a : Answer) : Delivery → List Event → Prop where
  | perFragment : Told a .perFragment (a.fragments.map (.response · false) ++ [a.outcome])
  | merged {last whole : Response} :
    a.ending = .ok last →
    Response.Whole (a.fragments ++ [last]) whole →
    Told a .merged [.response whole true]
  | refused {error : ServerError} :
    a.ending = .error error →
    Told a .merged [.fault (.server error)]

/-- These frames carry the answer to a request of this kind. -/
structure Carried (kind : ResponseKind) (a : Answer) (frames : List Frame) : Prop where
  fits : ∀ f ∈ frames, f.Fits
  reads : frames.map kind.read = a.readings.map .ok

/-! ### Fragments that have been taken -/

/-- What is held of fragments: all of them, joined in order. -/
def Held : List Response → Option Response → Prop
  | [], held => held = none
  | first :: rest, held => ∃ whole, held = some whole ∧ rest.foldlM Response.merge first = .ok whole

/-- One more fragment is joined to what is held. -/
lemma Held.snoc {fragments : List Response} {held : Option Response} {r whole : Response}
    (h : Held fragments held) (j : Accumulator.join held r = .ok whole) :
    Held (fragments ++ [r]) (some whole) := by
  cases fragments with
  | nil =>
    cases h
    cases j
    exact ⟨r, rfl, rfl⟩
  | cons first rest =>
    obtain ⟨before, rfl, e⟩ := h
    refine ⟨whole, rfl, ?_⟩
    show (rest ++ [r]).foldlM Response.merge first = .ok whole
    have merge : before.merge r = .ok whole := j
    rw [List.foldlM_append, e]
    simp only [bind, Except.bind, List.foldlM_cons, List.foldlM_nil, merge]
    rfl

/-- What is held of fragments is the whole that they make. -/
lemma Held.whole {fragments : List Response} {whole : Response} (h : Held fragments (some whole)) :
    Response.Whole fragments whole := by
  cases fragments with
  | nil => cases h
  | cons first rest =>
    obtain ⟨_, same, fold⟩ := h
    cases same
    exact (Response.Whole.single first).foldlM fold

/-- An operation has taken these fragments, and its listener has been told so. -/
structure Gathered (p : Operation) (fragments : List Response) (told : List Event) : Prop where
  each : p.delivery = .perFragment → told = fragments.map (.response · false)
  merged : p.delivery = .merged → told = [] ∧ Held fragments p.accumulator.held

/-- Frames that leave more to come are fragments, and they are gathered. -/
lemma gathered_of_takes {o p : Operation} {frames : List Frame} {told : List Event}
    (aw : o.Awaiting) (empty : o.accumulator.held = none) (tk : Takes o frames p told) :
    p.delivery = o.delivery ∧
      ∃ fragments,
        frames.map o.kind.read = fragments.map (fun r => .ok (.fragment r false)) ∧
          Gathered p fragments told := by
  -- The last frame of those taken is told, or joined to what is held, behind all before it.
  induction tk with
  | nil => exact ⟨rfl, [], rfl, fun _ => rfl, fun _ => ⟨rfl, empty⟩⟩
  | @snoc frames p told frame p' events tk e ih =>
    obtain ⟨way, fragments, reads, gathered⟩ := ih
    have kind : p.kind = o.kind := congrArg EncodedRequest.kind (tk.request aw)
    have taken := (aw.takes tk).onFrame_taken frame
    rw [e] at taken
    cases taken with
    | @fragment r accumulator ready read push =>
      have way' := p.accumulator.push_delivery r false
      rw [push] at way'
      refine ⟨way'.trans way, fragments ++ [r], ?_, fun each => ?_, fun merged => ?_⟩
      · rw [kind] at read
        simp [reads, read]
      · have each' : p.delivery = .perFragment := way'.symm.trans each
        rw [gathered.each each', Accumulator.push_perFragment each' push]
        simp
      · have merged' : p.delivery = .merged := way'.symm.trans merged
        obtain ⟨none_, held⟩ := gathered.merged merged'
        obtain ⟨whole, j, _, later⟩ := Accumulator.push_merged merged' push
        obtain ⟨rfl, held'⟩ := later rfl
        exact ⟨by simp [none_], held' ▸ held.snoc j⟩

/-- Frames that leave more to come tell of no end of an answer. -/
lemma not_isAnswer_of_takes {o p : Operation} {frames : List Frame} {told : List Event}
    (aw : o.Awaiting) (empty : o.accumulator.held = none) (tk : Takes o frames p told) :
    ∀ e ∈ told, ¬ e.IsAnswer := by
  obtain ⟨_, fragments, _, gathered⟩ := gathered_of_takes aw empty tk
  cases way : p.delivery with
  | perFragment =>
    rw [gathered.each way]
    intro e m
    obtain ⟨r, _, rfl⟩ := List.mem_map.1 m
    simp [Event.IsAnswer]
  | merged =>
    rw [(gathered.merged way).1]
    simp

/-! ### Complete answers -/

/-- Fragments before something that is none are all fragments of an answer that begins so. -/
lemma fragments_unique {fragments fragments' : List Response} {reading ending : Except Fault Reading}
    {more : List (Except Fault Reading)} (other : ∀ r, reading ≠ .ok (.fragment r false))
    (e : fragments.map (fun r => .ok (.fragment r false)) ++ reading :: more =
      fragments'.map (fun r => .ok (.fragment r false)) ++ [ending]) :
    fragments = fragments' ∧ reading = ending ∧ more = [] := by
  induction fragments generalizing fragments' with
  | nil =>
    cases fragments' with
    | nil => simpa using e
    | cons r rest =>
      exact absurd (List.cons.inj e).1 (other r)
  | cons r rest ih =>
    cases fragments' with
    | nil => simp at e
    | cons r' rest' =>
      obtain ⟨first, others⟩ := List.cons.inj e
      obtain ⟨rfl, same⟩ := ih others
      obtain rfl : r = r' := by simpa using first
      exact ⟨rfl, same⟩

/-- A refusal behind fragments ends what is told of the answer. -/
lemma Gathered.refused {a : Answer} {p : Operation} {told : List Event} {error : ServerError}
    (g : Gathered p a.fragments told) (ending : a.ending = .error error) :
    a.Told p.delivery (told ++ [.fault (.server error)]) := by
  cases way : p.delivery with
  | perFragment =>
    have last : a.outcome = .fault (.server error) := by rw [outcome, ending]
    rw [g.each way, ← last]
    exact .perFragment
  | merged =>
    rw [(g.merged way).1]
    exact .refused ending

/-- The last fragment behind others ends what is told of the answer. -/
lemma Gathered.last {a : Answer} {p : Operation} {told : List Event} {r whole : Response}
    {accumulator : Accumulator} (g : Gathered p a.fragments told) (ending : a.ending = .ok r)
    (push : p.accumulator.push r true = (accumulator, .ok (some whole))) :
    a.Told p.delivery (told ++ [.response whole true]) := by
  cases way : p.delivery with
  | perFragment =>
    cases Accumulator.push_perFragment way push
    have last : a.outcome = .response r true := by rw [outcome, ending]
    rw [g.each way, ← last]
    exact .perFragment
  | merged =>
    obtain ⟨none_, held⟩ := g.merged way
    obtain ⟨whole', j, now, _⟩ := Accumulator.push_merged way push
    cases now rfl
    rw [none_]
    exact .merged ending (held.snoc j).whole

/-- Where the frames of an answer are taken in turn up to one that brings the outcome, this is the
last one, and the listener has been told of exactly the answer. -/
lemma Carried.complete {request : Request} {delivery : Delivery} {a : Answer}
    {taken more : List Frame} {last : Frame} {p q : Operation} {told events : List Event}
    {progress : Progress}
    (carried : Carried request.responseKind a (taken ++ last :: more))
    (tk : Takes (Operation.ofRequest request delivery).beginSend.operation taken p told)
    (e : p.onFrame last = { operation := q, events, result := .ok progress })
    (outcome : progress ≠ .more) : more = [] ∧ a.Told delivery (told ++ events) := by
  have aw : (Operation.ofRequest request delivery).beginSend.operation.Awaiting := ⟨rfl, rfl⟩
  obtain ⟨way, fragments, reads, gathered⟩ := gathered_of_takes aw rfl tk
  have kind : p.kind = request.responseKind := congrArg EncodedRequest.kind (tk.request aw)
  change p.delivery = delivery at way
  change taken.map request.responseKind.read = _ at reads
  have all := carried.reads
  rw [List.map_append, List.map_cons, reads] at all
  unfold readings at all
  rw [List.map_append, List.map_map] at all
  have final := (aw.takes tk).onFrame_taken last
  rw [e] at final
  subst way
  -- The last frame is no fragment, and so it reads as the ending of the answer.
  cases final with
  | @refused error read =>
    rw [kind] at read
    obtain ⟨rfl, ending, none_⟩ := fragments_unique (by simp [read]) all
    refine ⟨by simpa using none_, gathered.refused ?_⟩
    rw [read] at ending
    cases result : a.ending with
    | ok r => simp [result] at ending
    | error error' => simpa [result, eq_comm] using ending
  | @last r accumulator whole read push =>
    rw [kind] at read
    obtain ⟨rfl, ending, none_⟩ := fragments_unique (by simp [read]) all
    refine ⟨by simpa using none_, gathered.last ?_ push⟩
    rw [read] at ending
    cases result : a.ending with
    | error error => simp [result] at ending
    | ok r' => simpa [result, eq_comm] using ending
  | fragment _ _ => exact absurd rfl outcome

end Answer

end StoreClient
