import StoreClient.Bytes

/-!
# Lossy UTF-8

Server messages and node names are byte strings that are usually, but not always, UTF-8. `decode`
turns any byte string into text: well-formed sequences become their characters, and every longest
run of bytes that could have begun a character but does not complete one becomes one U+FFFD.

The decoder is a machine that is fed one byte at a time, so nothing is looked at twice.
-/

namespace StoreClient.Utf8

/-- Where the machine stands between two bytes. -/
inductive State where
  /-- Between characters. -/
  | start
  /-- Inside a character: `owed + 1` continuation bytes are missing, the next one lies between
  `low` and `high`, and `value` is the code point as far as it is known. -/
  | within (owed : Nat) (low high : UInt8) (value : Nat)
  deriving DecidableEq, Repr

/-- The character that stands for undecodable bytes. -/
def replacement : Char := '\uFFFD'

/-- The first byte of a character: what it completes on its own, and the state after it. -/
def lead (b : UInt8) : List Char × State :=
  if b < 0x80 then ([Char.ofNat b.toNat], .start)
  else if b < 0xC2 then ([replacement], .start)
  else if b < 0xE0 then ([], .within 0 0x80 0xBF (b.toNat - 0xC0))
  else if b < 0xF0 then
    let low := if b = 0xE0 then 0xA0 else 0x80
    let high := if b = 0xED then 0x9F else 0xBF
    ([], .within 1 low high (b.toNat - 0xE0))
  else if b < 0xF5 then
    let low := if b = 0xF0 then 0x90 else 0x80
    let high := if b = 0xF4 then 0x8F else 0xBF
    ([], .within 2 low high (b.toNat - 0xF0))
  else ([replacement], .start)

/-- One byte: the characters that it settles, and the state after it. A byte that cannot continue
the character under way ends that one as undecodable and is then a first byte itself. -/
def step : State → UInt8 → List Char × State
  | .start, b => lead b
  | .within owed low high value, b =>
    if low ≤ b ∧ b ≤ high then
      let value := 64 * value + (b.toNat - 0x80)
      match owed with
      | 0 => ([Char.ofNat value], .start)
      | owed + 1 => ([], .within owed 0x80 0xBF value)
    else
      let (chars, state) := lead b
      (replacement :: chars, state)

/-- What the end of the input settles: an unfinished character is undecodable. -/
def finish : State → List Char
  | .start => []
  | .within .. => [replacement]

/-- The text of a byte string. -/
def decode (b : Bytes) : String :=
  let (chars, state) := b.foldl (fun (chars, state) x =>
    let (more, state) := step state x
    (more.reverse ++ chars, state)) (([] : List Char), State.start)
  String.ofList (chars.reverse ++ finish state)

end StoreClient.Utf8
