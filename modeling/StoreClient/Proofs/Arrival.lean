import Mathlib
import StoreClient.Proofs.Accumulator

/-!
# What an accumulator counts

An accumulator counts the fragments that come, with their elements, up to the first one that is
marked as the last (`Counts.run`). A fragment counts whether or not it can be joined, and its mark
as well. So a fragment that is refused leaves its trace unless the answer was complete before: what
is held stays as it was, but the counts go on, and with the mark the answer is over and what is
held is never delivered (`refused_push`).
-/

namespace StoreClient.Accumulator

/-- Takes fragments in turn, each with its mark, whatever comes of them. -/
def run (a : Accumulator) (fragments : List (Response × Bool)) : Accumulator :=
  fragments.foldl (fun a f => (a.push f.1 f.2).1) a

/-- The fragments up to the first one that is marked as the last. -/
def counted : List (Response × Bool) → List Response
  | [] => []
  | (fragment, true) :: _ => [fragment]
  | (fragment, false) :: fragments => fragment :: counted fragments

section

variable {a b : Accumulator} {fragment : Response} {done : Bool} {fault : Fault}

/-- A complete answer takes no fragment, and nothing is counted any more. -/
lemma push_of_done (complete : a.done = true) (fragment : Response) (done : Bool) :
    a.push fragment done = (a, .error (.format .fragmentAfterLast)) := if_pos complete

/-- A complete answer stays as it is, whatever comes. -/
lemma run_of_done (complete : a.done = true) (fragments : List (Response × Bool)) :
    a.run fragments = a := by
  induction fragments with
  | nil => rfl
  | cons f fragments ih =>
    unfold run at ih ⊢
    rw [List.foldl_cons, push_of_done complete]
    exact ih

/-- How a fragment comes to be refused, by which fault, and what the accumulator is after it. -/
inductive Refused (a : Accumulator) (fragment : Response) (done : Bool) :
    Accumulator → Fault → Prop where
  | afterLast : a.done = true → Refused a fragment done a (.format .fragmentAfterLast)
  | unmergeable {whole : Response} {fault : Fault} :
    a.done = false →
    a.delivery = .merged →
    a.held = some whole →
    whole.merge fragment = .error fault →
    Refused a fragment done
      { a with
        fragments := a.fragments + 1
        elements := a.elements + fragment.length
        done }
      fault

/-- A first fragment has nothing to be joined to, so that only a later one can be refused. -/
lemma join_error {held : Option Response} (e : join held fragment = .error fault) :
    ∃ whole, held = some whole ∧ whole.merge fragment = .error fault := by
  cases held with
  | none => cases e
  | some whole => exact ⟨whole, rfl, e⟩

/-- A fragment that cannot be joined counts all the same, and so does its mark. -/
lemma push_of_unmergeable (done : Bool) (way : a.delivery = .merged) (open_ : a.done = false)
    (j : join a.held fragment = .error fault) :
    a.push fragment done =
      ({ a with
          fragments := a.fragments + 1
          elements := a.elements + fragment.length
          done },
        .error fault) := by
  unfold push
  rw [if_neg (by simp [open_])]
  simp only [way, j]

/-- A fragment is refused behind the last one, or because it cannot be joined. -/
lemma push_refused (e : a.push fragment done = (b, .error fault)) :
    Refused a fragment done b fault := by
  cases complete : a.done with
  | true =>
    rw [push_of_done complete] at e
    cases e
    exact .afterLast complete
  | false =>
    cases way : a.delivery with
    | perFragment =>
      rw [push_of_perFragment fragment done way complete] at e
      cases e
    | merged =>
      cases j : join a.held fragment with
      | ok whole =>
        rw [push_of_join done way complete j] at e
        cases done <;> cases e
      | error cause =>
        rw [push_of_unmergeable done way complete j] at e
        cases e
        obtain ⟨whole, held, m⟩ := join_error j
        exact .unmergeable complete way held m

/-- Until the answer is complete every fragment counts. -/
lemma push_counts (complete : a.done = false) (fragment : Response) (done : Bool) :
    let b := (a.push fragment done).1
    b.fragments = a.fragments + 1 ∧ b.elements = a.elements + fragment.length ∧ b.done = done := by
  cases way : a.delivery with
  | perFragment =>
    rw [push_of_perFragment fragment done way complete]
    exact ⟨rfl, rfl, rfl⟩
  | merged =>
    cases j : join a.held fragment with
    | ok whole =>
      rw [push_of_join done way complete j]
      exact ⟨rfl, rfl, rfl⟩
    | error cause =>
      rw [push_of_unmergeable done way complete j]
      exact ⟨rfl, rfl, rfl⟩

end

/-- Fragments do not change how the answer is delivered. -/
@[simp] lemma run_delivery (a : Accumulator) (fragments : List (Response × Bool)) :
    (a.run fragments).delivery = a.delivery := by
  induction fragments generalizing a with
  | nil => rfl
  | cons f fragments ih => exact (ih _).trans (push_delivery a f.1 f.2)

/-- What an accumulator has counted of the fragments that have come. -/
structure Counts (history : List (Response × Bool)) (a b : Accumulator) : Prop where
  fragments : b.fragments = a.fragments + (counted history).length
  elements : b.elements = a.elements + ((counted history).map Response.length).sum
  done : b.done = history.any (·.2)

/-- Every fragment counts up to the first that is marked as the last. -/
lemma Counts.run {a : Accumulator} (open_ : a.done = false) (fragments : List (Response × Bool)) :
    Counts fragments a (a.run fragments) := by
  induction fragments generalizing a with
  | nil => exact ⟨rfl, rfl, open_⟩
  | cons f fragments ih =>
    obtain ⟨fragment, last⟩ := f
    obtain ⟨one, size, last_⟩ := push_counts open_ fragment last
    change Counts _ a ((a.push fragment last).1.run fragments)
    cases last with
    | true =>
      rw [run_of_done last_]
      exact ⟨one, by simpa [counted] using size, by simpa using last_⟩
    | false =>
      have later := ih last_
      refine ⟨?_, ?_, ?_⟩
      · rw [later.fragments, one, counted, List.length_cons]
        omega
      · rw [later.elements, size, counted, List.map_cons, List.sum_cons]
        omega
      · rw [later.done, List.any_cons, Bool.false_or]

/-- An accumulator that has taken some fragments refuses one more. It has counted every fragment up
to the first that was marked as the last. The refusal leaves what is held, and it leaves all as it
was just where the answer was complete before. Where it was not, the fragment could not be merged;
it counts with its elements nevertheless, and so does its mark. An answer that is over stays so,
and what is held is never delivered. -/
theorem refused_push (delivery : Delivery) (history : List (Response × Bool))
    {fragment : Response} {done : Bool} {b : Accumulator} {fault : Fault}
    (refused : (run { delivery } history).push fragment done = (b, .error fault)) :
    let a := run { delivery } history
    (a.fragments = (counted history).length ∧
        a.elements = ((counted history).map Response.length).sum ∧
        a.done = history.any (·.2)) ∧
      b.delivery = a.delivery ∧ b.held = a.held ∧
      (b = a ↔ a.done = true) ∧
      (a.done = false →
        (delivery = .merged ∧ ∃ whole, a.held = some whole ∧ whole.merge fragment = .error fault) ∧
          b.fragments = a.fragments + 1 ∧ b.elements = a.elements + fragment.length ∧
          b.done = done) ∧
      (b.done = true →
        ∀ later last, b.push later last = (b, .error (.format .fragmentAfterLast))) := by
  intro a
  have counts := Counts.run (a := { delivery }) rfl history
  refine ⟨⟨?_, ?_, counts.done⟩, ?_⟩
  · simpa using counts.fragments
  · simpa using counts.elements
  have way : a.delivery = delivery := run_delivery { delivery } history
  have ended : b.done = true →
      ∀ later last, b.push later last = (b, .error (.format .fragmentAfterLast)) :=
    push_of_done
  cases push_refused refused with
  | afterLast complete =>
    refine ⟨rfl, rfl, iff_of_true rfl complete, fun open_ => ?_, ended⟩
    rw [complete] at open_
    cases open_
  | @unmergeable whole fault open_ merged held m =>
    refine ⟨rfl, rfl, iff_of_false ?_ (by simp [a, open_]), fun _ => ?_, ended⟩
    · -- One more fragment is counted than before.
      intro same
      exact absurd (congrArg Accumulator.fragments same) (Nat.succ_ne_self _)
    · exact ⟨⟨way.symm.trans merged, whole, held, m⟩, rfl, rfl, rfl⟩

/-- A pong that is marked as the last comes behind a key. -/
theorem refused_push_pong :
    let a := run { delivery := .merged } [(.keys [[97]], false)]
    let b : Accumulator := { a with fragments := 2, elements := 2, done := true }
    a.push .pong true = (b, .error (.format (.unmergeable "pong" "keys"))) ∧
      b.held = some (.keys [[97]]) ∧ b ≠ a ∧
      ∀ later last, b.push later last = (b, .error (.format .fragmentAfterLast)) := by
  intro a b
  have refused : a.push .pong true = (b, .error (.format (.unmergeable "pong" "keys"))) := rfl
  obtain ⟨_, _, held, same, _, ended⟩ := refused_push .merged [(.keys [[97]], false)] refused
  exact ⟨refused, held, fun e => absurd (same.1 e) (by decide), ended rfl⟩

/-- A fragment that is refused does not leave an accumulator as it was: the pong counts as a
fragment and an element, and it ends the answer. -/
theorem refused_fragment_counts :
    let a := run { delivery := .merged } [(.keys [[97]], false)]
    let (b, result) := a.push .pong true
    result = .error (.format (.unmergeable "pong" "keys")) ∧
      ¬ (b.held = a.held ∧ b.fragments = a.fragments ∧ b.elements = a.elements ∧
        b.done = a.done) := by
  decide +kernel

end StoreClient.Accumulator
