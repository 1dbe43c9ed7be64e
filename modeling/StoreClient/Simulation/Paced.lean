import StoreClient.Simulation.Script

/-!
# Paced scripts

A script answers writes and flushes at once; only its reads may take time. A paced script may keep
waiting whoever writes or flushes, too, for a while or for ever. Without pauses it is the script.
-/

namespace StoreClient.Simulation

/-- What passes before a write or a flush is answered. -/
inductive Pause where
  | delay (milliseconds : Nat)
  /-- No answer comes ever. -/
  | stall
  deriving DecidableEq, Repr

/-- A script that may take its time with writes and flushes. -/
structure Paced where
  script : Script := {}
  /-- What passes before each write and each flush, in turn. Where this ends they are answered at
  once. -/
  pauses : List Pause := []
  deriving DecidableEq, Repr

/-- The same answer of another line. -/
def Answer.map {σ τ : Type} (f : σ → τ) : Answer σ → Answer τ
  | .given completion patience line => .given completion patience (f line)
  | .overdue line => .overdue (f line)

namespace Paced

/-- Lets the next pause pass: what is left of patience, unless it runs out, and the pauses behind. A
pause that outlasts patience is over for whoever comes next. -/
def pass : List Pause → Patience → Option Patience × List Pause
  | [], patience => (some patience, [])
  | .delay milliseconds :: pauses, patience => (patience.after? milliseconds, pauses)
  | .stall :: pauses, _ => (none, pauses)

/-- What comes of something asked of a paced script. -/
def ask (p : Paced) (capacity : Nat) (await : Await) (patience : Patience) : Answer Paced :=
  match await with
  | .read => (Line.ask p.script capacity .read patience).map fun script => { p with script }
  | .write _ | .flush =>
    match pass p.pauses patience with
    | (some patience, pauses) =>
      (Line.ask p.script capacity await patience).map fun script => { script, pauses }
    | (none, pauses) => .overdue { p with pauses }

instance : Line Paced where
  ask := ask
  reads p := Line.reads p.script

end Paced

end StoreClient.Simulation
