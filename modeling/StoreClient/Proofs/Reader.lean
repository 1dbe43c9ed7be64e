import Mathlib
import StoreClient.Payload.Decode
import StoreClient.Payload.Encode

/-!
# Reading what was written

A reader reads a value from some bytes (`Reads`) if it takes exactly these bytes off the front of
any input and gives the value. Readers that are made of others read what these read, one behind the
other (`Reads.bind`), and a reader that is repeated reads the pieces in turn
(`Repeats.repeatUntil`).

On this rest the numbers, keys and lengths of payloads: every number below 2^64 is read back from
its base-128 digits (`Varint.reads_encode`), every key from its own (`reads_key`), and a value
behind its length is read to that length (`Repeats.within`).
-/

namespace StoreClient.Payload

namespace Reader

variable {α β : Type} {a b c : α} {bytes bytes' rest : Bytes}

/-- The reader takes these bytes off the front of any input and gives this value. -/
def Reads (read : Reader α) (bytes : Bytes) (a : α) : Prop :=
  ∀ rest, read (.ofBytes (bytes ++ rest)) = .ok (a, .ofBytes rest)

/-- A reader that takes nothing gives its value. -/
lemma Reads.pure (a : α) : Reads (pure a) [] a := fun _ => rfl

/-- Two readers in turn take what the one takes and then what the other takes. -/
lemma Reads.bind {read : Reader α} {next : α → Reader β} {d : β} (first : Reads read bytes a)
    (second : Reads (next a) bytes' d) : Reads (read >>= next) (bytes ++ bytes') d := by
  intro rest
  show (read (.ofBytes (bytes ++ bytes' ++ rest)) >>= fun p => next p.1 p.2) = _
  rw [List.append_assoc, first]
  exact second rest

/-- What is computed from a value is read from the same bytes. -/
lemma Reads.map {read : Reader α} (f : α → β) (first : Reads read bytes a) :
    Reads (do return f (← read)) bytes (f a) := by
  rw [← List.append_nil bytes]
  exact first.bind (Reads.pure (f a))

/-- A reader that says where it fails reads the same. -/
lemma Reads.located {read : Reader α} (location : Location) (h : Reads read bytes a) :
    Reads (located location read) bytes a := by
  intro rest
  show (read _).mapError _ = _
  rw [h rest]
  rfl

/-- A reader that gives a value is run to it. -/
lemma run_eq_ok {read : Reader α} {payload : Bytes} {c : Cursor}
    (h : read (.ofBytes payload) = .ok (a, c)) : Reader.run read payload = .ok a := by
  unfold Reader.run
  rw [h]

/-- A run that gives a value is of a reader that gives it. -/
lemma eq_ok_of_run {read : Reader α} {payload : Bytes} (h : Reader.run read payload = .ok a) :
    ∃ c, read (.ofBytes payload) = .ok (a, c) := by
  unfold Reader.run at h
  split at h
  · cases h
    exact ⟨_, ‹_›⟩
  · cases h

/-- Reading as many bytes as there are of something gives these. -/
lemma reads_take (bytes : Bytes) : Reads (take bytes.length) bytes bytes := by
  intro rest
  simp [take, skip, bind, StateT.bind, Except.bind, get, getThe, MonadStateOf.get, StateT.get, pure,
    Except.pure, set, StateT.set, StateT.pure]

/-- Pieces of a value that a reader reads one behind the other. -/
inductive Repeats (read : α → Reader α) : α → Bytes → α → Prop where
  | nil (a : α) :
    Repeats read a [] a
  | cons {a b c : α} {piece rest : Bytes} :
    piece ≠ [] →
    Reads (read a) piece b →
    Repeats read b rest c →
    Repeats read a (piece ++ rest) c

/-- A repeated reader reads the pieces that there are up to its end. -/
lemma Repeats.repeatUntil {read : α → Reader α} (h : Repeats read a bytes c) (fuel : Nat)
    (enough : bytes.length ≤ fuel) (rest : Bytes) :
    repeatUntil rest.length read fuel a (.ofBytes (bytes ++ rest)) = .ok (c, .ofBytes rest) := by
  induction h generalizing fuel with
  | nil =>
    cases fuel with
    | zero => rfl
    | succ fuel =>
      show (if rest.length ≤ rest.length then Pure.pure _ else _ : Reader α) _ = _
      rw [if_pos le_rfl]
      rfl
  | @cons a b c piece more some_ first _ ih =>
    have positive : 0 < piece.length := List.length_pos_iff.2 some_
    rw [List.length_append] at enough
    cases fuel with
    | zero => omega
    | succ fuel =>
      show (if (piece ++ more ++ rest).length ≤ rest.length then Pure.pure a
        else read a >>= Reader.repeatUntil rest.length read fuel : Reader α) _ = _
      rw [if_neg (by simp only [List.length_append]; omega)]
      show (read a (.ofBytes (piece ++ more ++ rest)) >>=
        fun p => Reader.repeatUntil rest.length read fuel p.1 p.2) = _
      rw [List.append_assoc, first]
      exact ih fuel (by omega)

end Reader

open Reader

/-! ### Numbers -/

namespace Varint

/-- A number whose last group has a single bit is read back from its digits. -/
lemma readDigits_digits (groups : Nat) {n : Nat} (fits : n < 2 ^ (7 * groups + 1)) (rest : Bytes) :
    readDigits (groups + 1) (.ofBytes (digits (groups + 1) n ++ rest)) =
      some (n, .ofBytes rest) := by
  induction groups generalizing n with
  | zero =>
    have bit : n < 2 := by simpa using fits
    have byte : (UInt8.ofNat n).toNat = n := by
      rw [UInt8.toNat_ofNat']
      omega
    have small : UInt8.ofNat n < 128 := by
      rw [UInt8.lt_iff_toNat_lt, byte]
      exact Nat.lt_of_lt_of_le bit (by decide)
    have single : ¬ (2 : UInt8) ≤ UInt8.ofNat n := by
      rw [UInt8.le_iff_toNat_le, byte]
      exact Nat.not_le.2 bit
    simp [readDigits, digits, show n < 128 by omega, small, single, byte]
  | succ groups ih =>
    by_cases last : n < 128
    · have byte : (UInt8.ofNat n).toNat = n := by
        rw [UInt8.toNat_ofNat']
        omega
      have small : UInt8.ofNat n < 128 := by
        rw [UInt8.lt_iff_toNat_lt, byte]
        exact last
      simp [readDigits, digits, last, small, byte]
    · have byte : (UInt8.ofNat (n % 128 + 128)).toNat = n % 128 + 128 := by
        rw [UInt8.toNat_ofNat']
        omega
      have marked : ¬ UInt8.ofNat (n % 128 + 128) < 128 := by
        rw [UInt8.lt_iff_toNat_lt, byte]
        exact by simp
      have less : n / 128 < 2 ^ (7 * groups + 1) := by
        rw [Nat.div_lt_iff_lt_mul (by decide), show (128 : Nat) = 2 ^ 7 from rfl, ← pow_add]
        exact fits.trans_eq (by ring_nf)
      rw [digits, if_neg last, List.cons_append, readDigits, Cursor.next?_cons]
      simp only [marked, if_false, ih less, byte, Option.some.injEq, Prod.mk.injEq, and_true]
      omega

/-- Every number below 2^64 is read back. -/
lemma reads_encode {n : Nat} (fits : n < 2 ^ 64) : Reads read (encode n) n := by
  intro rest
  have back := readDigits_digits 9 fits rest
  simp only [read, encode, maxLength, back]

/-- A number is written with a byte at least. -/
lemma encode_ne_nil (n : Nat) : encode n ≠ [] := by
  unfold encode maxLength digits
  split <;> simp

/-- The size of a number is that of its encoding. -/
lemma length_encode (n : Nat) : (encode n).length = size n := by
  unfold encode maxLength size
  simp only [digits, Nat.div_div_eq_div_mul, Nat.div_lt_iff_lt_mul, Nat.reduceMul, Nat.reduceLT]
  repeat' split
  all_goals rfl

end Varint

/-! ### Keys and lengths -/

/-- The key of a field is read back. -/
lemma reads_key {number : Nat} (positive : 0 < number) (below : number < 0x20000000)
    (wireType : WireType) :
    Reads readKey (Varint.encode (keyNumber number wireType)) (number, wireType) := by
  have code := wireType.code_lt
  have small : keyNumber number wireType < 0x100000000 := by
    unfold keyNumber
    omega
  have tail : keyNumber number wireType % 8 = wireType.code := by
    unfold keyNumber
    omega
  have head : keyNumber number wireType / 8 = number := by
    unfold keyNumber
    omega
  have key := Varint.reads_encode (n := keyNumber number wireType) (by omega)
  rw [← List.append_nil (Varint.encode _)]
  refine key.bind ?_
  rw [if_neg (by omega), tail, WireType.ofCode?_code, head]
  simp only [if_neg (show ¬ number = 0 by omega)]
  exact Reads.pure _

/-- A byte string is read back from behind its length. -/
lemma reads_delimited {body : Bytes} (fits : body.length < 2 ^ 64) :
    Reads readDelimited (delimited body) body :=
  (Varint.reads_encode fits).bind (reads_take body)

/-- Pieces are read back from behind their length. -/
lemma Reader.Repeats.within {α : Type} {read : α → Reader α} {a c : α} {body : Bytes}
    (h : Repeats read a body c) (fits : body.length < 2 ^ 64) :
    Reads (readWithin read a) (delimited body) c := by
  refine (Varint.reads_encode fits).bind fun rest => ?_
  have pieces := h.repeatUntil (body ++ rest).length (by simp) rest
  have behind : (body ++ rest).length - body.length = rest.length := by simp
  show (if (body ++ rest).length < body.length then _ else
    Reader.repeatUntil ((body ++ rest).length - body.length) read (body ++ rest).length a >>= _
      : Reader α) _ = _
  rw [if_neg (by simp), behind]
  show (Reader.repeatUntil rest.length read (body ++ rest).length a (.ofBytes (body ++ rest)) >>=
    fun p => _) = _
  rw [pieces]
  show (if rest.length ≠ (body ++ rest).length - body.length then _ else Pure.pure c
    : Reader α) _ = _
  rw [behind, if_neg (by simp)]
  rfl

/-! ### Scalars -/

/-- A signed number is known from its two's complement. -/
lemma int32_ofNat_twosComplement (n : Int32) : Int32.ofNat (twosComplement n.toInt) = n := by
  apply Int32.toInt_inj.1
  have low := n.le_toInt
  have high := n.toInt_lt
  rw [Int32.toInt_ofNat', Int.bmod_def]
  unfold twosComplement Int32.size
  split <;> omega

/-- A two's complement takes 64 bits. -/
lemma twosComplement_lt (n : Int) : twosComplement n < 2 ^ 64 := by
  unfold twosComplement
  omega

/-- A zigzag form takes 64 bits. -/
lemma zigzag_lt (n : Int64) : zigzag n.toInt < 2 ^ 64 := by
  have low := n.le_toInt
  have high := n.toInt_lt
  cases signed : n.toInt with
  | ofNat k =>
    rw [signed, Int.ofNat_eq_natCast] at high
    show 2 * k < 2 ^ 64
    omega
  | negSucc k =>
    rw [signed] at low
    show 2 * k + 1 < 2 ^ 64
    omega

end StoreClient.Payload
