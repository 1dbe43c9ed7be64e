import StoreClient.Simulation.Line

/-!
# Scripts

A script is a line that is written down beforehand: what each read gives and how long it takes, how
much each write accepts, and which flushes fail. Where the script ends, reads are at the end of the
stream, and writes and flushes succeed.
-/

namespace StoreClient.Simulation

/-- A step of the input. -/
inductive ReadStep where
  /-- These bytes come. None at all is the end of the stream. -/
  | data (bytes : Bytes)
  | failed (cause : String)
  /-- Nothing comes for so many milliseconds. -/
  | delay (milliseconds : Nat)
  /-- Nothing comes ever. -/
  | stall
  deriving DecidableEq, Repr

/-- What a write comes to. -/
inductive WriteStep where
  /-- At most so many bytes are accepted. -/
  | accept (most : Nat)
  | failed (cause : String)
  deriving DecidableEq, Repr

/-- A scripted byte stream. -/
structure Script where
  reads : List ReadStep := []
  writes : List WriteStep := []
  /-- The cause by which each flush fails, if it does. -/
  flushes : List (Option String) := []
  /-- The bytes that have been accepted. -/
  written : Bytes := []
  deriving DecidableEq, Repr

namespace Script

/-- What a read comes to: the completion, unless patience runs out, with what is left of patience
and of the input. A read takes what fits, and leaves the rest for the next one. A wait that outlasts
patience is over for whoever comes next. -/
def readInput (capacity : Nat) :
    List ReadStep → Patience → Option (Completion × Patience) × List ReadStep
  | [], patience => (some (.received [], patience), [])
  | .data bytes :: rest, patience =>
    (some (.received (bytes.take capacity), patience),
      if bytes.length ≤ capacity then rest else .data (bytes.drop capacity) :: rest)
  | .failed cause :: rest, patience => (some (.failed cause, patience), rest)
  | .delay milliseconds :: rest, patience =>
    match patience.after? milliseconds with
    | some patience => readInput capacity rest patience
    | none => (none, rest)
  | .stall :: rest, _ => (none, rest)

/-- How many reads may give something. -/
def readsOf : ReadStep → Nat
  | .data bytes => bytes.length + 1
  | _ => 1

/-- What comes of something asked of a script. -/
def ask (s : Script) (capacity : Nat) (await : Await) (patience : Patience) : Answer Script :=
  match await with
  | .read =>
    match readInput capacity s.reads patience with
    | (some (completion, patience), reads) => .given completion patience { s with reads }
    | (none, reads) => .overdue { s with reads }
  | .write bytes =>
    match s.writes with
    | [] => .given (.wrote bytes.length) patience { s with written := s.written ++ bytes }
    | .accept most :: writes =>
      .given (.wrote (min most bytes.length)) patience
        { s with writes, written := s.written ++ bytes.take most }
    | .failed cause :: writes => .given (.failed cause) patience { s with writes }
  | .flush =>
    match s.flushes with
    | some cause :: flushes => .given (.failed cause) patience { s with flushes }
    | none :: flushes => .given .flushed patience { s with flushes }
    | [] => .given .flushed patience s

instance : Line Script where
  ask := ask
  reads s := (s.reads.map readsOf).foldl (· + ·) 0

end Script

end StoreClient.Simulation
