import StoreClient.Payload.Reader

/-!
# Base-128 numbers

A varint spells a number below 2^64 in groups of seven bits, least significant group first; every
byte but the last has its high bit set. Signed numbers are folded into unsigned ones first, either
by `zigzag` (small magnitudes stay short) or in two's complement (negative numbers take ten bytes).
-/

namespace StoreClient.Payload

namespace Varint

/-- The most bytes that a number below 2^64 takes. -/
def maxLength : Nat := 10

/-- At most `groups` seven-bit groups of `n`. -/
def digits : Nat → Nat → Bytes
  | 0, _ => []
  | groups + 1, n =>
    if n < 128 then [UInt8.ofNat n] else UInt8.ofNat (n % 128 + 128) :: digits groups (n / 128)

/-- The encoding of a number below 2^64. -/
def encode (n : Nat) : Bytes := digits maxLength n

/-- The number of bytes in the encoding of a number below 2^64. -/
def size (n : Nat) : Nat :=
  if n < 0x80 then 1
  else if n < 0x4000 then 2
  else if n < 0x200000 then 3
  else if n < 0x10000000 then 4
  else if n < 0x800000000 then 5
  else if n < 0x40000000000 then 6
  else if n < 0x2000000000000 then 7
  else if n < 0x100000000000000 then 8
  else if n < 0x8000000000000000 then 9
  else 10

/-- Reads a number of at most `groups` groups, of which the last one has a single bit. -/
def readDigits : Nat → Cursor → Option (Nat × Cursor)
  | 0, _ => none
  | groups + 1, c =>
    match c.next? with
    | none => none
    | some (b, c) =>
      if b < 128 then
        if groups = 0 ∧ 2 ≤ b then none else some (b.toNat, c)
      else
        match readDigits groups c with
        | none => none
        | some (n, c) => some (b.toNat - 128 + 128 * n, c)

/-- Reads a number below 2^64. -/
def read : Reader Nat := fun c =>
  match readDigits maxLength c with
  | some r => .ok r
  | none => .error (.ofCause .invalidVarint)

end Varint

/-- Folds a signed number: 0, -1, 1, -2, 2, … become 0, 1, 2, 3, 4, …. -/
def zigzag : Int → Nat
  | .ofNat n => 2 * n
  | .negSucc n => 2 * n + 1

/-- Unfolds a number that `zigzag` folded. -/
def unzigzag (n : Nat) : Int :=
  if n % 2 = 0 then Int.ofNat (n / 2) else Int.negSucc (n / 2)

/-- A signed number is known from its zigzag form. -/
@[simp] theorem unzigzag_zigzag (n : Int) : unzigzag (zigzag n) = n := by
  cases n with
  | ofNat n => simp [zigzag, unzigzag]
  | negSucc n =>
    simp [zigzag, unzigzag]
    omega

/-- The 64-bit two's complement of a number. -/
def twosComplement (n : Int) : Nat := (n % 0x10000000000000000).toNat

end StoreClient.Payload
