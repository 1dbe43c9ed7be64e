import StoreClient.Bytes

/-!
# Reading positions

A `Cursor` is a suffix of the input together with its length, so that the number of bytes left is
known without counting. Every cursor is `Cursor.ofBytes` of its bytes (`Cursor.eq_ofBytes`).
-/

namespace StoreClient.Payload

/-- The input that is still to be read. -/
structure Cursor where
  bytes : Bytes
  /-- The number of bytes left. -/
  left : Nat
  left_eq : left = bytes.length

namespace Cursor

/-- The start of an input. -/
def ofBytes (b : Bytes) : Cursor := ⟨b, b.length, rfl⟩

/-- The next byte and the position after it. -/
def next? (c : Cursor) : Option (UInt8 × Cursor) :=
  match c with
  | ⟨[], _, _⟩ => none
  | ⟨b :: rest, left, h⟩ => some (b, ⟨rest, left - 1, by simp [h]⟩)

/-- The position `n` bytes further on. -/
def advance (c : Cursor) (n : Nat) : Cursor :=
  ⟨c.bytes.drop n, c.left - n, by simp [c.left_eq]⟩

/-- The start of an input has all of its bytes. -/
@[simp] theorem bytes_ofBytes (b : Bytes) : (ofBytes b).bytes = b := rfl

/-- At the start of an input all of its bytes are left. -/
@[simp] theorem left_ofBytes (b : Bytes) : (ofBytes b).left = b.length := rfl

/-- A cursor is determined by its bytes. -/
@[ext] theorem ext {c d : Cursor} (h : c.bytes = d.bytes) : c = d := by
  cases c; cases d; simp_all

/-- Every position is the start of what is still to be read. -/
theorem eq_ofBytes (c : Cursor) : c = ofBytes c.bytes := ext rfl

/-- There is no byte at the end of an input. -/
@[simp] theorem next?_nil : (ofBytes []).next? = none := rfl

/-- The next byte is the first one, and the others are behind it. -/
@[simp] theorem next?_cons (b : UInt8) (rest : Bytes) :
    (ofBytes (b :: rest)).next? = some (b, ofBytes rest) := by
  simp only [ofBytes, next?, Option.some.injEq, Prod.mk.injEq, true_and]
  exact ext rfl

/-- Going on skips the first bytes of what is still to be read. -/
@[simp] theorem advance_ofBytes (b : Bytes) (n : Nat) :
    (ofBytes b).advance n = ofBytes (b.drop n) := ext rfl

end Cursor

end StoreClient.Payload
