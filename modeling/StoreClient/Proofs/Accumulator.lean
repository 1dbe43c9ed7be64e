import Mathlib
import StoreClient.Accumulator
import StoreClient.Proofs.Response

/-!
# What an accumulator gives

A fragment that is taken is delivered at once where it is the last one or where every fragment is,
and not otherwise (`push_ready`). One that is not taken is a format fault (`push_error`). Up to the
last one every fragment is taken, if only it can be joined where the answer is delivered merged
(`push_of_perFragment`, `push_of_join`).
-/

namespace StoreClient.Accumulator

/-- A fragment that is taken is delivered at once where it is the last one or where every fragment
is, and not otherwise. -/
lemma push_ready {a b : Accumulator} {fragment : Response} {done : Bool} {ready : Option Response}
    (e : a.push fragment done = (b, .ok ready)) :
    ready.isSome = (done || a.delivery == .perFragment) := by
  unfold push at e
  split at e
  · cases e
  · cases way : a.delivery with
    | perFragment =>
      simp only [way, Prod.mk.injEq, Except.ok.injEq] at e
      rw [← e.2]
      simp
    | merged =>
      simp only [way] at e
      cases j : join a.held fragment with
      | error fault => simp [j] at e
      | ok whole =>
        cases done <;> simp only [j, if_true, if_false, Bool.false_eq_true, Prod.mk.injEq,
          Except.ok.injEq] at e <;> rw [← e.2] <;> rfl

/-- A fragment is refused for its format only. -/
lemma push_error {a b : Accumulator} {fragment : Response} {done : Bool} {fault : Fault}
    (e : a.push fragment done = (b, .error fault)) : ∃ cause, fault = .format cause := by
  unfold push at e
  split at e
  · cases e
    exact ⟨_, rfl⟩
  · cases way : a.delivery with
    | perFragment => simp [way] at e
    | merged =>
      simp only [way] at e
      cases j : join a.held fragment with
      | ok whole => cases done <;> simp [j] at e
      | error cause =>
        simp only [j, Prod.mk.injEq, Except.error.injEq] at e
        unfold join at j
        split at j
        · cases j
        · exact e.2 ▸ Response.merge_error j

/-- Where every fragment is delivered, one that is taken is delivered at once. -/
lemma push_perFragment {a b : Accumulator} {fragment : Response} {done : Bool}
    {ready : Option Response} (way : a.delivery = .perFragment)
    (e : a.push fragment done = (b, .ok ready)) : ready = some fragment := by
  unfold push at e
  split at e
  · cases e
  · simp only [way, Prod.mk.injEq, Except.ok.injEq] at e
    exact e.2.symm

/-- Where an answer is delivered merged, a fragment that is taken is joined to those before it; the
whole is delivered with the last one and held back before. -/
lemma push_merged {a b : Accumulator} {fragment : Response} {done : Bool}
    {ready : Option Response} (way : a.delivery = .merged)
    (e : a.push fragment done = (b, .ok ready)) :
    ∃ whole, join a.held fragment = .ok whole ∧
      (done = true → ready = some whole) ∧
      (done = false → ready = none ∧ b.held = some whole) := by
  unfold push at e
  split at e
  · cases e
  · simp only [way] at e
    cases j : join a.held fragment with
    | error fault => simp [j] at e
    | ok whole =>
      refine ⟨whole, rfl, ?_, ?_⟩
      · rintro rfl
        simp only [j, if_true, Prod.mk.injEq, Except.ok.injEq] at e
        exact e.2.symm
      · rintro rfl
        simp only [j, Bool.false_eq_true, if_false, Prod.mk.injEq, Except.ok.injEq] at e
        obtain ⟨rfl, rfl⟩ := e
        exact ⟨rfl, rfl⟩

/-- A fragment does not change how the answer is delivered. -/
@[simp] lemma push_delivery (a : Accumulator) (fragment : Response) (done : Bool) :
    (a.push fragment done).1.delivery = a.delivery := by
  unfold push
  split
  · rfl
  · cases way : a.delivery with
    | perFragment => rfl
    | merged =>
      simp only
      cases join a.held fragment with
      | error fault => rfl
      | ok whole => cases done <;> rfl

/-- Where every fragment is delivered, each is taken up to the last one. -/
lemma push_of_perFragment {a : Accumulator} (fragment : Response) (done : Bool)
    (way : a.delivery = .perFragment) (open_ : a.done = false) :
    a.push fragment done =
      ({ a with
          fragments := a.fragments + 1
          elements := a.elements + fragment.length
          done },
        .ok (some fragment)) := by
  unfold push
  rw [if_neg (by simp [open_])]
  simp only [way]

/-- Where an answer is delivered merged, each fragment that can be joined is taken up to the last
one. -/
lemma push_of_join {a : Accumulator} {fragment whole : Response} (done : Bool)
    (way : a.delivery = .merged) (open_ : a.done = false)
    (j : join a.held fragment = .ok whole) :
    a.push fragment done =
      ({ a with
          held := if done then none else some whole
          fragments := a.fragments + 1
          elements := a.elements + fragment.length
          done },
        .ok (if done then some whole else none)) := by
  unfold push
  rw [if_neg (by simp [open_])]
  simp only [way, j]
  cases done <;> rfl

end StoreClient.Accumulator
