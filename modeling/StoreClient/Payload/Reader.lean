import StoreClient.Payload.Cursor
import StoreClient.Payload.Fault

/-!
# Readers

A reader takes a value off the front of the input or says why it cannot. The combinators that repeat
a reader are bounded by the bytes that are left, since whatever they repeat takes a byte at least.
-/

namespace StoreClient.Payload

/-- Reads a value and moves on, or fails. -/
abbrev Reader := StateT Cursor (Except DecodeFault)

namespace Reader

variable {α β : Type}

/-- A reader that fails. -/
def fail (cause : DecodeCause) : Reader α := throw (.ofCause cause)

/-- The number of bytes left. -/
def left : Reader Nat := return (← get).left

/-- Moves `n` bytes on, if so many are left. -/
def skip (n : Nat) : Reader Unit := do
  let c ← get
  if c.left < n then
    fail .underflow
  else
    set (c.advance n)

/-- The next `n` bytes, if so many are left. -/
def take (n : Nat) : Reader Bytes := do
  let c ← get
  skip n
  return c.bytes.take n

/-- Repeats a reader until `stop` bytes are left or it has been used `fuel` times. -/
def repeatUntil (stop : Nat) (read : α → Reader α) : (fuel : Nat) → α → Reader α
  | 0, a => return a
  | fuel + 1, a => do
    if (← left) ≤ stop then
      return a
    else
      repeatUntil stop read fuel (← read a)

/-- The same reader, with its fault placed inside a field. -/
def located (location : Location) (read : Reader α) : Reader α :=
  fun c => (read c).mapError (·.within location)

/-- What a reader gives on a whole payload. -/
def run (read : Reader α) (payload : Bytes) : Except DecodeFault α :=
  match read (Cursor.ofBytes payload) with
  | .ok (a, _) => .ok a
  | .error fault => .error fault

end Reader

end StoreClient.Payload
