import Mathlib
import StoreClient.Proofs.Carry

/-!
# Frames one after the other

Frames are asked for one at a time, and whoever waits for one may give up and ask again. However the
input is cut into reads and whichever calls are given up, the calls that come to something give the
frames of the whole input in their order, and then the fault that ends it (`readFrames_in_order`).

What carries this from call to call is the outlook of a connection: what is to be had of it and of
the rest of its input. A read only moves it from the input into the connection (`outlook_receive`), a
call that is given up leaves it as it was, and any other call takes the first of it (`Asking.came`).
-/

namespace StoreClient

namespace Simulation

namespace Script

/-! ### What is heard -/

/-- What comes in over the steps of an input for somebody who gives up where it stalls, and then asks
again. -/
def heard (reads : List ReadStep) : Input := inputOf (reads.filter (· ≠ .stall))

section heard

variable {reads : List ReadStep}

/-- The bytes of a step are heard before the rest. -/
lemma heard_data {bytes : Bytes} (some_ : bytes ≠ []) (reads : List ReadStep) :
    heard (.data bytes :: reads) =
      { heard reads with bytes := bytes ++ (heard reads).bytes } :=
  inputOf_data some_ _

/-- What is heard by somebody who asks again always ends. -/
lemma exists_heard_ending (reads : List ReadStep) : ∃ fault, (heard reads).ending = some fault := by
  apply exists_ending
  simp

/-- For how many milliseconds nothing comes over the steps of an input. -/
def waits : List ReadStep → Nat
  | [] => 0
  | .delay milliseconds :: reads => milliseconds + waits reads
  | _ :: reads => waits reads

/-- So much patience is enough for all that comes over the steps of an input. -/
structure Outlasts (patience : Patience) (reads : List ReadStep) : Prop where
  flows : .stall ∉ reads
  enough : ∀ left ∈ patience, waits reads ≤ left

/-- Patience that is enough is enough behind the first step. -/
lemma Outlasts.tail {patience : Patience} {step : ReadStep}
    (h : Outlasts patience (step :: reads)) : Outlasts patience reads := by
  refine ⟨fun stalls => h.flows (List.mem_cons_of_mem _ stalls), fun left m => ?_⟩
  have enough := h.enough left m
  cases step with
  | delay milliseconds => exact Nat.le_trans (Nat.le_add_left _ _) enough
  | data bytes => exact enough
  | failed cause => exact enough
  | stall => exact enough

/-- Bytes take no patience. -/
lemma Outlasts.data {patience : Patience} (h : Outlasts patience reads) (bytes : Bytes) :
    Outlasts patience (.data bytes :: reads) :=
  ⟨by simpa using h.flows, h.enough⟩

/-- Patience that is enough has some left after a delay. -/
lemma Outlasts.delay {patience : Patience} {milliseconds : Nat}
    (h : Outlasts patience (.delay milliseconds :: reads)) :
    ∃ left, patience.after? milliseconds = some left ∧ Outlasts left reads := by
  cases patience with
  | none => exact ⟨none, rfl, h.tail.flows, nofun⟩
  | some whole =>
    have enough : milliseconds + waits reads ≤ whole := h.enough whole rfl
    refine ⟨some (whole - milliseconds), if_pos (by omega), h.tail.flows, ?_⟩
    rintro left ⟨⟩
    omega

/-- What a read comes to for somebody with so much patience: some bytes off the front of what is
heard, or the end of it, or nothing in time. -/
inductive Asked (capacity : Nat) (patience : Patience) (reads : List ReadStep) : Prop where
  | given {chunk : Bytes} {left : Patience} {rest : List ReadStep} :
    readInput capacity reads patience = (some (.received chunk, left), rest) →
    chunk ≠ [] →
    heard reads = { heard rest with bytes := chunk ++ (heard rest).bytes } →
    readCount rest < readCount reads →
    (Outlasts patience reads → Outlasts left rest) →
    Asked capacity patience reads
  | ended {completion : Completion} {left : Patience} {rest : List ReadStep} {fault : Fault} :
    readInput capacity reads patience = (some (completion, left), rest) →
    heard reads = { bytes := [], ending := some fault } →
    (∀ c : Connection, c.afterReading completion = (c.markBroken, some fault)) →
    Asked capacity patience reads
  | overdue {rest : List ReadStep} :
    readInput capacity reads patience = (none, rest) →
    heard reads = heard rest →
    ¬ Outlasts patience reads →
    Asked capacity patience reads

/-- A read takes what fits of bytes that there are. -/
lemma asked_data {capacity : Nat} (positive : 0 < capacity) (patience : Patience) {bytes : Bytes}
    (some_ : bytes ≠ []) (reads : List ReadStep) :
    Asked capacity patience (.data bytes :: reads) := by
  by_cases fits : bytes.length ≤ capacity
  · have read : readInput capacity (.data bytes :: reads) patience =
        (some (.received bytes, patience), reads) := by
      simp [readInput, fits, List.take_of_length_le fits]
    refine .given read some_ (heard_data some_ reads) ?_ Outlasts.tail
    rw [readCount_cons]
    exact Nat.lt_add_of_pos_left (Nat.succ_pos _)
  · have read : readInput capacity (.data bytes :: reads) patience =
        (some (.received (bytes.take capacity), patience),
          .data (bytes.drop capacity) :: reads) := by
      simp [readInput, fits]
    have left : bytes.drop capacity ≠ [] := by simpa using fits
    refine .given read ?_ ?_ ?_ (fun h => h.tail.data _)
    · simpa using ⟨Nat.ne_of_gt positive, some_⟩
    · rw [heard_data some_, heard_data left]
      simp only [← List.append_assoc, List.take_append_drop]
    · simp only [readCount_cons, readsOf, List.length_drop]
      omega

/-- A read gives bytes, or the end of what is heard, or nothing in time. -/
lemma asked {capacity : Nat} (positive : 0 < capacity) (patience : Patience)
    (reads : List ReadStep) : Asked capacity patience reads := by
  induction reads generalizing patience with
  | nil => exact .ended rfl rfl (fun c => rfl)
  | cons step reads ih =>
    cases step with
    | data bytes =>
      cases bytes with
      | nil =>
        have read : readInput capacity (.data [] :: reads) patience =
            (some (.received [], patience), reads) := by
          simp [readInput]
        exact .ended read rfl (fun c => rfl)
      | cons b bytes => exact asked_data positive patience (by simp) reads
    | failed cause => exact .ended rfl rfl (fun c => rfl)
    | delay milliseconds =>
      cases enough : patience.after? milliseconds with
      | none =>
        have read : readInput capacity (.delay milliseconds :: reads) patience = (none, reads) := by
          simp only [readInput, enough]
        refine .overdue read rfl fun h => ?_
        obtain ⟨left, some_, _⟩ := h.delay
        rw [enough] at some_
        cases some_
      | some left =>
        have later : readInput capacity (.delay milliseconds :: reads) patience =
            readInput capacity reads left := by
          simp only [readInput, enough]
        have outlasts : Outlasts patience (.delay milliseconds :: reads) → Outlasts left reads := by
          intro h
          obtain ⟨left', same, h'⟩ := h.delay
          rw [enough] at same
          cases same
          exact h'
        cases ih left with
        | given e some_ bytes less kept =>
          refine .given (later.trans e) some_ bytes ?_ (kept ∘ outlasts)
          rw [readCount_cons]
          exact Nat.lt_add_left _ less
        | ended e bytes fault => exact .ended (later.trans e) bytes fault
        | overdue e same never => exact .overdue (later.trans e) same (never ∘ outlasts)
    | stall => exact .overdue rfl rfl (fun h => h.flows List.mem_cons_self)

end heard

/-- Patience that is enough for an input is enough for what any read leaves of it. -/
lemma Outlasts.rest {patience : Patience} {reads : List ReadStep} (h : Outlasts patience reads)
    (capacity : Nat) (other : Patience) :
    Outlasts patience (readInput capacity reads other).2 := by
  induction reads generalizing other with
  | nil => exact h
  | cons step reads ih =>
    cases step with
    | data bytes =>
      simp only [readInput]
      split
      · exact h.tail
      · exact h.tail.data _
    | failed cause => exact h.tail
    | delay milliseconds =>
      simp only [readInput]
      split
      · exact ih h.tail _
      · exact h.tail
    | stall => exact h.tail

end Script

/-! ### The outlook of a connection -/

/-- Frames that are handed out in turn, and then a fault, if there is one. -/
def inTurn (frames : List Frame) (fault : Option Fault) : List (Except Fault Frame) :=
  frames.map .ok ++ fault.toList.map .error

/-- What is to be had of a connection and of the rest of its input, up to the first fault. -/
def outlook (c : Connection) (reads : List ReadStep) : List (Except Fault Frame) :=
  match c.deferred with
  | some fault => inTurn c.ready (some fault)
  | none =>
    let input := Script.heard reads
    let fed := c.decoder.feed input.bytes
    inTurn (c.ready ++ fed.frames) (fed.fault.or input.ending)

section outlook

variable {c : Connection} {reads : List ReadStep}

/-- A fault that waits is behind the frames that are ready, and nothing comes after it. -/
lemma outlook_of_deferred {fault : Fault} (waits : c.deferred = some fault)
    (reads : List ReadStep) : outlook c reads = inTurn c.ready (some fault) := by
  simp only [outlook, waits]

/-- Behind the frames that are ready are those of the rest of the input. -/
lemma outlook_of_clean (clean : c.deferred = none) (reads : List ReadStep) :
    outlook c reads =
      inTurn (c.ready ++ (c.decoder.feed (Script.heard reads).bytes).frames)
        ((c.decoder.feed (Script.heard reads).bytes).fault.or (Script.heard reads).ending) := by
  simp only [outlook, clean]

/-- The first frame that is ready is the first to be had. -/
lemma outlook_ready {frame : Frame} {ready : List Frame} (first : c.ready = frame :: ready)
    (reads : List ReadStep) :
    outlook c reads = .ok frame :: outlook { c with ready } reads := by
  cases waits : c.deferred with
  | some fault =>
    rw [outlook_of_deferred waits, first]
    rfl
  | none =>
    rw [outlook_of_clean waits, first]
    rfl

/-- A read only moves what is to be had from the input into the connection. -/
lemma outlook_receive (ready : c.ready = []) (clean : c.deferred = none) {chunk : Bytes}
    {rest : List ReadStep}
    (whole : Script.heard reads =
      { Script.heard rest with bytes := chunk ++ (Script.heard rest).bytes }) :
    outlook c reads = outlook (c.receive chunk) rest := by
  rw [outlook_of_clean clean, whole, ready]
  cases fed : c.decoder.feed chunk with
  | mk decoder frames fault =>
    have taken : (c.receive chunk).ready = frames := by
      simp only [Connection.receive, fed, ready, List.nil_append]
    cases fault with
    | some fault =>
      have waits : (c.receive chunk).deferred = some fault := by
        simp only [Connection.receive, fed, Option.some_or]
      rw [outlook_of_deferred waits, taken]
      dsimp only
      rw [Decoder.feed_append_of_fault (by rw [fed]), fed, Option.some_or, List.nil_append]
    | none =>
      have clean' : (c.receive chunk).deferred = none := by
        simp only [Connection.receive, fed, clean, Option.none_or]
      have next : (c.receive chunk).decoder = decoder := by
        simp only [Connection.receive, fed]
      rw [outlook_of_clean clean', taken, next]
      dsimp only
      rw [Decoder.feed_append fed, List.nil_append]

/-- At the end of the input there is only its fault to be had. -/
lemma outlook_ended (ready : c.ready = []) (clean : c.deferred = none) {fault : Fault}
    (ends : Script.heard reads = { bytes := [], ending := some fault }) :
    outlook c reads = [.error fault] := by
  rw [outlook_of_clean clean, ends, ready]
  rfl

end outlook

/-! ### Asking for a frame -/

/-- What asking for a frame comes to: what can be had without reading, or else what is read. -/
inductive Asking : (count : Nat) → Patience → Connection → Script →
    Used Script (Except Fault Frame) → Prop where
  | found {count : Nat} {patience : Patience} {c c' : Connection} {script : Script}
    {result : Except Fault Frame} :
    c.next? = some (result, c') →
    Asking count patience c script { connection := c', line := script, result := some result }
  | spent {patience : Patience} {c : Connection} {script : Script} :
    Asking 0 patience c script { connection := c, line := script, result := none }
  | given {count : Nat} {patience left : Patience} {c : Connection} {script : Script}
    {chunk : Bytes} {rest : List ReadStep} {used : Used Script (Except Fault Frame)} :
    c.ready = [] → c.deferred = none →
    Script.heard script.reads =
      { Script.heard rest with bytes := chunk ++ (Script.heard rest).bytes } →
    Script.readCount rest < Script.readCount script.reads →
    (Script.Outlasts patience script.reads → Script.Outlasts left rest) →
    (∀ other, Script.Outlasts other script.reads → Script.Outlasts other rest) →
    Asking count left (c.receive chunk) { script with reads := rest } used →
    Asking (count + 1) patience c script used
  | ended {count : Nat} {patience : Patience} {c : Connection} {script : Script}
    {rest : List ReadStep} {fault : Fault} :
    c.ready = [] → c.deferred = none →
    Script.heard script.reads = { bytes := [], ending := some fault } →
    (∀ other, Script.Outlasts other script.reads → Script.Outlasts other rest) →
    Asking (count + 1) patience c script
      { connection := c.markBroken, line := { script with reads := rest },
        result := some (.error fault) }
  | overdue {count : Nat} {patience : Patience} {c : Connection} {script : Script}
    {rest : List ReadStep} :
    c.ready = [] → c.deferred = none →
    Script.heard script.reads = Script.heard rest →
    ¬ Script.Outlasts patience script.reads →
    (∀ other, Script.Outlasts other script.reads → Script.Outlasts other rest) →
    Asking (count + 1) patience c script
      { connection := c, line := { script with reads := rest }, result := none }

section Asking

variable {c : Connection} {script : Script} {count : Nat} {patience : Patience}
  {used : Used Script (Except Fault Frame)}

/-- Where nothing can be had without reading, nothing is ready and no fault waits. -/
lemma next?_eq_none (nothing : c.next? = none) : c.ready = [] ∧ c.deferred = none := by
  unfold Connection.next? at nothing
  cases ready : c.ready with
  | cons frame ready' =>
    rw [ready] at nothing
    cases nothing
  | nil =>
    cases clean : c.deferred with
    | none => exact ⟨rfl, rfl⟩
    | some fault =>
      rw [ready, clean] at nothing
      cases nothing

/-- To hand out what is there breaks no connection. -/
lemma next?_broken {found : Except Fault Frame × Connection} (next : c.next? = some found) :
    found.2.broken = c.broken := by
  unfold Connection.next? at next
  split at next
  · cases next
    rfl
  · cases next
    rfl
  · cases next

/-- Reading for a frame asks for it step by step. -/
lemma asking_readFrom (count : Nat) (patience : Patience) (c : Connection) (script : Script) :
    Asking count patience c script (readFrom count patience c script) := by
  induction count generalizing c script patience with
  | zero =>
    unfold readFrom
    cases next : c.next? with
    | some found => exact .found next
    | none => exact .spent
  | succ count ih =>
    unfold readFrom
    cases next : c.next? with
    | some found => exact .found next
    | none =>
      obtain ⟨ready, clean⟩ := next?_eq_none next
      have kept : ∀ other, Script.Outlasts other script.reads → Script.Outlasts other
          (Script.readInput c.readCapacity script.reads patience).2 :=
        fun _ outlasts => outlasts.rest c.readCapacity patience
      simp only [Line.ask, Script.ask]
      cases Script.asked (readCapacity_pos c) patience script.reads with
      | @given chunk left rest read some_ whole less outlasts =>
        obtain ⟨b, chunk, rfl⟩ := List.exists_cons_of_ne_nil some_
        rw [read] at kept
        simp only [read, Connection.afterReading]
        exact .given ready clean whole less outlasts kept (ih _ _ _)
      | ended read ends lost =>
        rw [read] at kept
        simp only [read, lost]
        exact .ended ready clean ends kept
      | overdue read same never =>
        rw [read] at kept
        simp only [read]
        exact .overdue ready clean same never kept

/-- A broken connection stays broken while a frame is asked for. -/
lemma Asking.broken (asking : Asking count patience c script used) (broken : c.broken = true) :
    used.connection.broken = true := by
  induction asking with
  | found next => exact (next?_broken next).trans broken
  | spent => exact broken
  | given _ _ _ _ _ _ _ ih => exact ih (by simp [Connection.receive, broken])
  | ended _ _ _ _ => rfl
  | overdue _ _ _ _ _ => exact broken

/-- A call comes to something if its patience is enough. -/
lemma Asking.completes (asking : Asking count patience c script used)
    (enough : Script.readCount script.reads < count)
    (outlasts : Script.Outlasts patience script.reads) : used.result ≠ none := by
  induction asking with
  | found _ => exact Option.some_ne_none _
  | spent => exact absurd enough (Nat.not_lt_zero _)
  | given _ _ _ less kept _ _ ih =>
    -- Each read that gives something leaves fewer for the rest of the input.
    exact ih (Nat.lt_of_lt_of_le less (Nat.le_of_lt_succ enough)) (kept outlasts)
  | ended _ _ _ _ => exact Option.some_ne_none _
  | overdue _ _ _ never _ => exact absurd outlasts never

/-- Patience that is enough for an input is enough for what any call leaves of it. -/
lemma Asking.outlasts (asking : Asking count patience c script used) {other : Patience}
    (outlasts : Script.Outlasts other script.reads) :
    Script.Outlasts other used.line.reads := by
  induction asking with
  | found _ => exact outlasts
  | spent => exact outlasts
  | given _ _ _ _ _ kept _ ih => exact ih (kept other outlasts)
  | ended _ _ _ kept => exact kept other outlasts
  | overdue _ _ _ _ kept => exact kept other outlasts

end Asking

/-- What one call has come to: the first of the outlook, or nothing where it was given up. Without a
fault what is left is marked as it has to be. -/
inductive Came (c : Connection) (reads : List ReadStep) : Used Script (Except Fault Frame) → Prop where
  | frame {frame : Frame} {c' : Connection} {script : Script} :
    outlook c reads = .ok frame :: outlook c' script.reads →
    c'.Marked →
    Came c reads { connection := c', line := script, result := some (.ok frame) }
  | fault {fault : Fault} {c' : Connection} {script : Script} :
    outlook c reads = [.error fault] →
    c'.broken = true →
    Came c reads { connection := c', line := script, result := some (.error fault) }
  | givenUp {c' : Connection} {script : Script} :
    outlook c reads = outlook c' script.reads →
    c'.Marked →
    Came c reads { connection := c', line := script, result := none }

section Came

variable {c : Connection} {script : Script}

/-- What can be had without reading is the first of the outlook. -/
lemma came_next (marked : c.Marked) {result : Except Fault Frame} {c' : Connection}
    (next : c.next? = some (result, c')) :
    Came c script.reads { connection := c', line := script, result := some result } := by
  unfold Connection.next? at next
  cases first : c.ready with
  | cons frame ready =>
    rw [first] at next
    cases next
    exact .frame (outlook_ready first script.reads) marked
  | nil =>
    cases waits : c.deferred with
    | none =>
      rw [first, waits] at next
      cases next
    | some fault =>
      rw [first, waits] at next
      cases next
      refine .fault ?_ (marked (by simp [waits]))
      rw [outlook_of_deferred waits, first]
      rfl

/-- A call comes to the same behind a read that leaves the outlook as it was. -/
lemma Came.moved {reads reads' : List ReadStep} {c' : Connection}
    {used : Used Script (Except Fault Frame)} (came : Came c' reads' used)
    (same : outlook c reads = outlook c' reads') : Came c reads used := by
  cases came with
  | frame first marked => exact .frame (same.trans first) marked
  | fault only broken => exact .fault (same.trans only) broken
  | givenUp left marked => exact .givenUp (same.trans left) marked

/-- A call takes the first of the outlook, or it leaves it as it was. -/
lemma Asking.came {count : Nat} {patience : Patience} {used : Used Script (Except Fault Frame)}
    (asking : Asking count patience c script used) (marked : c.Marked) :
    Came c script.reads used := by
  induction asking with
  | found next => exact came_next marked next
  | spent => exact .givenUp rfl marked
  | given ready clean whole _ _ _ _ ih =>
    exact (ih (marked.receive _)).moved (outlook_receive ready clean whole)
  | ended ready clean ends _ => exact .fault (outlook_ended ready clean ends) rfl
  | overdue _ clean same _ _ =>
    refine .givenUp ?_ marked
    rw [outlook_of_clean clean, outlook_of_clean clean, same]

end Came

/-! ### Asking for frames in turn -/

/-- What is left when frames have been asked for several times. -/
structure Readings where
  connection : Connection
  script : Script
  /-- What each call has come to, unless it was given up. -/
  results : List (Option (Except Fault Frame))

/-- Asks for a frame several times, each time with so much patience. -/
def readFrames : List Patience → Connection → Script → Readings
  | [], c, script => { connection := c, script, results := [] }
  | patience :: calls, c, script =>
    let used := readFrame c script patience
    let later := readFrames calls used.connection used.line
    { later with results := used.result :: later.results }

section readFrames

variable {c : Connection} {script : Script}

/-- A broken connection stays broken, however often frames are asked for. -/
lemma broken_readFrames (calls : List Patience) (broken : c.broken = true) (script : Script) :
    (readFrames calls c script).connection.broken = true := by
  induction calls generalizing c script with
  | nil => exact broken
  | cons patience calls ih => exact ih ((asking_readFrom _ _ _ _).broken broken) _

/-- The calls that come to something give the outlook, and with its fault the connection is broken. -/
lemma readFrames_outlook (calls : List Patience) (marked : c.Marked) (script : Script) :
    let read := readFrames calls c script
    let got := read.results.reduceOption
    got.take (outlook c script.reads).length = (outlook c script.reads).take got.length ∧
      ∀ fault, .error fault ∈ got → read.connection.broken = true := by
  induction calls generalizing c script with
  | nil => exact ⟨by simp [readFrames], nofun⟩
  | cons patience calls ih =>
    have came := (asking_readFrom (Line.reads script + 1) patience c script).came marked
    have later := fun marked' => ih (c := (readFrame c script patience).connection) marked'
      (readFrame c script patience).line
    unfold readFrames
    change Came c script.reads (readFrame c script patience) at came
    generalize readFrame c script patience = used at came later
    cases came with
    | @frame frame c' script' first marked' =>
      obtain ⟨same, broken⟩ := later marked'
      simp only [List.reduceOption_cons_of_some, first, List.length_cons, List.take_succ_cons]
      refine ⟨congrArg _ same, fun fault m => broken fault ?_⟩
      simpa using m
    | @fault fault c' script' only broken =>
      simp only [List.reduceOption_cons_of_some, only, List.length_cons, List.take_succ_cons]
      exact ⟨by simp, fun _ _ => broken_readFrames calls broken script'⟩
    | @givenUp c' script' left marked' =>
      simp only [List.reduceOption_cons_of_none, left]
      exact later marked'

/-- Every call comes to something, or is given up. -/
lemma length_readFrames (calls : List Patience) (c : Connection) (script : Script) :
    (readFrames calls c script).results.length = calls.length := by
  induction calls generalizing c script with
  | nil => rfl
  | cons patience calls ih => exact congrArg (· + 1) (ih _ _)

/-- Of the calls only those come to nothing whose patience is not enough. -/
lemma readFrames_completes (calls : List Patience) (c : Connection) {patience : Patience}
    (outlasts : Script.Outlasts patience script.reads) {i : Nat}
    (call : calls[i]? = some patience) :
    (readFrames calls c script).results[i]? ≠ some none := by
  induction calls generalizing c script i with
  | nil => cases call
  | cons first calls ih =>
    cases i with
    | zero =>
      obtain rfl : first = patience := by simpa using call
      have enough : Script.readCount script.reads < Line.reads script + 1 := by
        rw [Script.reads_eq]
        exact Nat.lt_succ_self _
      intro nothing
      have none_ : (readFrame c script first).result = none := by
        simpa [readFrames] using nothing
      exact (asking_readFrom _ _ _ _).completes enough outlasts none_
    | succ i => exact ih _ ((asking_readFrom _ _ _ _).outlasts outlasts) (by simpa using call)

end readFrames

/-- Frames are asked for over a connection that holds no input, with so much patience each time. The
calls that come to something give the frames of the whole input one after the other, none lost and
none twice, and then the fault of a bad length behind them or else the one that ends the input; with
a fault the connection is broken. A call comes to something if its patience is enough. -/
theorem readFrames_in_order {c : Connection} (fresh : c.InStep) (script : Script)
    (calls : List Patience) :
    let read := readFrames calls c script
    let got := read.results.reduceOption
    let input := Script.heard script.reads
    let stream := Frame.split c.decoder.limits input.bytes
    ∃ fault, stream.fault.or input.ending = some fault ∧
      (let expected := stream.frames.map .ok ++ [.error fault]
       got.take expected.length = expected.take got.length) ∧
      (∀ cause, .error cause ∈ got → read.connection.broken = true) ∧
      read.results.length = calls.length ∧
      ∀ (i : Nat) (patience : Patience), calls[i]? = some patience →
        Script.Outlasts patience script.reads → read.results[i]? ≠ some none := by
  intro read got input stream
  obtain ⟨fault, ends⟩ : ∃ fault, stream.fault.or input.ending = some fault := by
    obtain ⟨last, ends⟩ := Script.exists_heard_ending script.reads
    rw [ends]
    cases stream.fault <;> exact ⟨_, rfl⟩
  have marked : c.Marked := fun waits => absurd fresh.deferred waits
  obtain ⟨same, broken⟩ := readFrames_outlook calls marked script
  have expected : outlook c script.reads = stream.frames.map .ok ++ [.error fault] := by
    obtain ⟨frames, bad⟩ := Decoder.feed_eq_split fresh.idle input.bytes
    rw [outlook_of_clean fresh.deferred, fresh.ready, frames, bad, ends]
    rfl
  rw [expected] at same
  exact ⟨fault, ends, same, broken, length_readFrames calls c script,
    fun i patience call outlasts => readFrames_completes calls c outlasts call⟩

/-- The first call is given up in the middle of a frame. One read then brings the rest of it, another
frame and a length that is too long, which is told behind both. -/
theorem readFrames_in_order_tooLong :
    let c : Connection := .ofStream 1 ⟨"a", 1⟩ 16
    let script : Script := { reads :=
      [.data [0, 0], .data [0, 2, 7], .delay 5, .data [8, 0, 0, 0, 1, 9, 0, 0, 0, 17], .data [1]] }
    let calls : List Patience := [some 1, none, none, some 5]
    let read := readFrames calls c script
    let got := read.results.reduceOption
    let expected : List (Except Fault Frame) :=
      [.ok { tag := 7, payload := [8] }, .ok { tag := 9, payload := [] },
        .error (.format (.frameTooLong 17 16))]
    c.InStep ∧ got.take 3 = expected.take got.length ∧ read.results = none :: expected.map some ∧
      read.connection.broken = true := by
  intro c script calls read got expected
  have fresh : c.InStep := ⟨rfl, rfl, rfl⟩
  obtain ⟨fault, ends, same, broken, _⟩ := readFrames_in_order fresh script calls
  have frames : (Frame.split c.decoder.limits (Script.heard script.reads).bytes).frames =
      [{ tag := 7, payload := [8] }, { tag := 9, payload := [] }] := by decide +kernel
  have bad : (Frame.split c.decoder.limits (Script.heard script.reads).bytes).fault =
      some (.format (.frameTooLong 17 16)) := by decide +kernel
  have results : read.results = none :: expected.map some := by decide +kernel
  rw [bad] at ends
  obtain rfl : .format (.frameTooLong 17 16) = fault := Option.some.inj ends
  rw [frames] at same
  refine ⟨fresh, same, results, broken (.format (.frameTooLong 17 16)) ?_⟩
  rw [results]
  decide

end Simulation

end StoreClient
