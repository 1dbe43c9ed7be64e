import Mathlib
import StoreClient.Proofs.Grammar
import StoreClient.Proofs.Reader

/-!
# Readers and what they accept

A reader parses a relation between bytes and values (`Reader.Parses`) if it gives a value exactly
where bytes that are related to it stand at the front of the input, and takes these. Readers that
are made of others parse what is made of their relations (`Reader.Parses.bind`), and a reader that
is repeated parses a chain (`Reader.Chain`).

The readers of numbers, keys and lengths parse what the grammar says of them, and so does the reader
that skips a value (`parses_skipField`, by induction on the depth; the members of a group are
followed by `skipGroup_eq_ok_iff`). What is read to a length is held against the whole input only
while it is read, and still ends where it should or not at all (`parses_readWithin`).
-/

namespace StoreClient.Payload

namespace Reader

variable {α β : Type}

/-- The reader gives a value exactly where it is spelled at the front of the input, and takes the
bytes that spell it. -/
def Parses (read : Reader α) (spells : Bytes → α → Prop) : Prop :=
  ∀ c a c', read c = .ok (a, c') ↔ ∃ b, spells b a ∧ c.bytes = b ++ c'.bytes

section Parses

variable {read : Reader α} {next : α → Reader β} {P : Bytes → α → Prop}
  {Q : α → Bytes → β → Prop}

/-- What a reader parses can be said in another way. -/
lemma Parses.congr {P' : Bytes → α → Prop} (h : Parses read P) (same : ∀ b a, P b a ↔ P' b a) :
    Parses read P' := by
  intro c a c'
  simp only [h c a c', same]

/-- A reader reads what it parses. -/
lemma Parses.reads {b : Bytes} {a : α} (h : Parses read P) (p : P b a) : Reads read b a :=
  fun _ => (h _ _ _).2 ⟨b, p, rfl⟩

/-- What a reader reads is what it parses. -/
lemma Parses.of_reads {b : Bytes} {a : α} (h : Parses read P) (r : Reads read b a) : P b a := by
  obtain ⟨b', p, e⟩ := (h _ _ _).1 (r [])
  simp only [Cursor.bytes_ofBytes, List.append_nil] at e
  rwa [e]

/-- A reader that fails parses nothing. -/
lemma parses_fail (cause : DecodeCause) : Parses (fail cause : Reader α) fun _ _ => False := by
  intro c a c'
  constructor
  · nofun
  · rintro ⟨b, nothing, _⟩
    exact nothing.elim

/-- A reader that takes nothing parses nothing. -/
lemma parses_pure (a : α) : Parses (pure a : Reader α) fun b a' => b = [] ∧ a' = a := by
  intro c a' c'
  constructor
  · intro e
    cases e
    exact ⟨[], ⟨rfl, rfl⟩, rfl⟩
  · rintro ⟨_, ⟨rfl, rfl⟩, e⟩
    rw [Cursor.ext (c := c) (d := c') e]
    rfl

/-- Two readers in turn parse what the first does, and behind it what the second does. -/
lemma Parses.bind (first : Parses read P) (second : ∀ a, Parses (next a) (Q a)) :
    Parses (read >>= next) fun b d => ∃ a b₁ b₂, P b₁ a ∧ Q a b₂ d ∧ b = b₁ ++ b₂ := by
  intro c d c'
  have unfolded : (read >>= next) c = (read c >>= fun p => next p.1 p.2) := rfl
  rw [unfolded]
  constructor
  · intro e
    cases e₁ : read c with
    | error fault =>
      rw [e₁] at e
      cases e
    | ok found =>
      obtain ⟨a, c₁⟩ := found
      rw [e₁] at e
      obtain ⟨b₁, p, whole₁⟩ := (first c a c₁).1 e₁
      obtain ⟨b₂, q, whole₂⟩ := (second a c₁ d c').1 e
      exact ⟨b₁ ++ b₂, ⟨a, b₁, b₂, p, q, rfl⟩, by rw [whole₁, whole₂, List.append_assoc]⟩
  · rintro ⟨_, ⟨a, b₁, b₂, p, q, rfl⟩, whole⟩
    have e₁ : read c = .ok (a, .ofBytes (b₂ ++ c'.bytes)) :=
      (first _ _ _).2 ⟨b₁, p, by rw [whole, List.append_assoc]; rfl⟩
    rw [e₁]
    exact (second _ _ _ _).2 ⟨b₂, q, rfl⟩

/-- What is computed from a value is spelled as the value. -/
lemma Parses.map (f : α → β) (h : Parses read P) :
    Parses (do return f (← read)) fun b d => ∃ a, P b a ∧ d = f a := by
  refine (h.bind fun a => parses_pure (f a)).congr ?_
  intro b d
  constructor
  · rintro ⟨a, b₁, _, p, ⟨rfl, rfl⟩, rfl⟩
    exact ⟨a, by rwa [List.append_nil], rfl⟩
  · rintro ⟨a, p, rfl⟩
    exact ⟨a, b, [], p, ⟨rfl, rfl⟩, (List.append_nil b).symm⟩

/-- A reader that says where it fails parses the same. -/
lemma Parses.located (location : Location) (h : Parses read P) :
    Parses (located location read) P := by
  intro c a c'
  rw [← h c a c']
  show (read c).mapError _ = _ ↔ _
  cases read c with
  | error fault => exact ⟨nofun, nofun⟩
  | ok found => exact Iff.rfl

/-- Bytes are skipped where there are as many. -/
lemma skip_eq_ok_iff {n : Nat} {c c' : Cursor} :
    skip n c = .ok ((), c') ↔ n ≤ c.bytes.length ∧ c' = c.advance n := by
  show (if c.left < n then fail .underflow else set (c.advance n) : Reader Unit) c = _ ↔ _
  rw [c.left_eq]
  split
  · rename_i short
    constructor
    · nofun
    · intro h
      omega
  · rename_i long
    constructor
    · intro e
      cases e
      exact ⟨Nat.le_of_not_lt long, rfl⟩
    · rintro ⟨_, rfl⟩
      rfl

/-- Any bytes are skipped, if there are so many. -/
lemma parses_skip (n : Nat) : Parses (skip n) fun b _ => b.length = n := by
  intro c u c'
  cases u
  rw [skip_eq_ok_iff]
  constructor
  · rintro ⟨long, rfl⟩
    exact ⟨c.bytes.take n, List.length_take_of_le long, (List.take_append_drop n c.bytes).symm⟩
  · rintro ⟨b, rfl, whole⟩
    refine ⟨by rw [whole, List.length_append]; omega, Cursor.ext ?_⟩
    show c'.bytes = c.bytes.drop b.length
    rw [whole, List.drop_left]

/-- Just so many bytes are taken. -/
lemma parses_take (n : Nat) : Parses (take n) fun b a => b.length = n ∧ a = b := by
  intro c a c'
  have unfolded : take n c = (skip n c >>= fun p => .ok (c.bytes.take n, p.2)) := rfl
  rw [unfolded]
  constructor
  · intro e
    cases skipped : skip n c with
    | error fault =>
      rw [skipped] at e
      cases e
    | ok found =>
      rw [skipped] at e
      cases e
      obtain ⟨b, rfl, whole⟩ := (parses_skip n _ _ _).1 skipped
      exact ⟨b, ⟨rfl, by rw [whole, List.take_left]⟩, whole⟩
  · rintro ⟨b, ⟨rfl, rfl⟩, whole⟩
    have skipped : skip a.length c = .ok ((), c') := (parses_skip _ _ _ _).2 ⟨a, rfl, whole⟩
    rw [skipped, whole, List.take_left]
    rfl

end Parses

/-! ### Chains -/

/-- Pieces that stand one behind the other, each of which makes a new value of the one so far. -/
inductive Chain (piece : α → Bytes → α → Prop) : α → Bytes → α → Prop where
  | nil (a : α) :
    Chain piece a [] a
  | cons {a b c : α} {front rest : Bytes} :
    piece a front b →
    Chain piece b rest c →
    Chain piece a (front ++ rest) c

section Chain

variable {read : α → Reader α} {piece : α → Bytes → α → Prop} {a a' : α}

/-- A repeated reader takes a chain of pieces, until no more than `stop` bytes are left. -/
lemma repeatUntil_sound (parses : ∀ a, Parses (read a) (piece a))
    (some_ : ∀ a b a', piece a b a' → b ≠ []) {stop fuel : Nat} {c c' : Cursor}
    (enough : c.bytes.length ≤ stop + fuel)
    (e : repeatUntil stop read fuel a c = .ok (a', c')) :
    c'.bytes.length ≤ stop ∧ ∃ b, Chain piece a b a' ∧ c.bytes = b ++ c'.bytes := by
  induction fuel generalizing a c with
  | zero =>
    cases e
    exact ⟨enough, [], .nil _, rfl⟩
  | succ fuel ih =>
    have unfolded : repeatUntil stop read (fuel + 1) a c =
        (if c.left ≤ stop then Pure.pure a else read a >>= repeatUntil stop read fuel
          : Reader α) c := rfl
    rw [unfolded, c.left_eq] at e
    split at e
    · rename_i less
      cases e
      exact ⟨less, [], .nil _, rfl⟩
    · have unfolded' : (read a >>= repeatUntil stop read fuel) c =
          (read a c >>= fun p => repeatUntil stop read fuel p.1 p.2) := rfl
      rw [unfolded'] at e
      cases first : read a c with
      | error fault =>
        rw [first] at e
        cases e
      | ok found =>
        obtain ⟨a₁, c₁⟩ := found
        rw [first] at e
        obtain ⟨front, p, whole⟩ := (parses a _ _ _).1 first
        have positive : 0 < front.length := List.length_pos_iff.2 (some_ _ _ _ p)
        have sizes : c.bytes.length = front.length + c₁.bytes.length := by
          rw [whole, List.length_append]
        have enough' : c₁.bytes.length ≤ stop + fuel := by omega
        obtain ⟨less, rest, chain, whole'⟩ := ih enough' e
        exact ⟨less, front ++ rest, .cons p chain, by rw [whole, whole', List.append_assoc]⟩

/-- A repeated reader reads the pieces of a chain in turn. -/
lemma Chain.repeats {b : Bytes} (h : Chain piece a b a') (parses : ∀ a, Parses (read a) (piece a))
    (some_ : ∀ a b a', piece a b a' → b ≠ []) : Repeats read a b a' := by
  induction h with
  | nil a => exact .nil a
  | cons p _ ih => exact .cons (some_ _ _ _ p) ((parses _).reads p) ih

/-- A repeated reader that stops `n` bytes further on has taken a chain of so many bytes, and takes
every such chain. -/
lemma repeatUntil_eq_ok_iff (parses : ∀ a, Parses (read a) (piece a))
    (some_ : ∀ a b a', piece a b a' → b ≠ []) {n : Nat} {c c' : Cursor}
    (long : n ≤ c.bytes.length) :
    (repeatUntil (c.left - n) read c.left a c = .ok (a', c') ∧ c'.left = c.left - n) ↔
      ∃ b, (b.length = n ∧ Chain piece a b a') ∧ c.bytes = b ++ c'.bytes := by
  constructor
  · rintro ⟨e, stopped⟩
    rw [c.left_eq, c'.left_eq] at *
    obtain ⟨_, b, chain, whole⟩ := repeatUntil_sound parses some_ (by omega) e
    have sizes : c.bytes.length = b.length + c'.bytes.length := by
      rw [whole, List.length_append]
    exact ⟨b, ⟨by omega, chain⟩, whole⟩
  · rintro ⟨b, ⟨rfl, chain⟩, whole⟩
    have start : c = .ofBytes (b ++ c'.bytes) := Cursor.ext whole
    have behind : c.left - b.length = c'.bytes.length := by
      rw [c.left_eq, whole, List.length_append, Nat.add_sub_cancel_left]
    have enough : b.length ≤ c.left := by rwa [c.left_eq]
    have read_ := (chain.repeats parses some_).repeatUntil c.left enough c'.bytes
    rw [← start, ← c'.eq_ofBytes] at read_
    rw [behind, c'.left_eq]
    exact ⟨read_, rfl⟩

/-- What is read piece by piece to a length is a chain of that length. -/
lemma parses_readWithin {spells : Bytes → Nat → Prop} (length : Parses Varint.read spells)
    (parses : ∀ a, Parses (read a) (piece a)) (some_ : ∀ a b a', piece a b a' → b ≠ []) (a : α) :
    Parses (readWithin read a) fun b a' =>
      ∃ front body, spells front body.length ∧ Chain piece a body a' ∧ b = front ++ body := by
  refine (length.bind (Q := fun n b a' => b.length = n ∧ Chain piece a b a') ?_).congr ?_
  · intro n c a' c'
    -- Pieces are read until so many bytes are left as should be; then it is checked that they are.
    have unfolded : (do
        let left ← Reader.left
        if left < n then
          fail .underflow
        else
          let a ← repeatUntil (left - n) read left a
          if (← Reader.left) ≠ left - n then
            fail .lengthExceeded
          else
            return a : Reader α) c =
        if c.left < n then .error (.ofCause .underflow)
        else
          repeatUntil (c.left - n) read c.left a c >>= fun p =>
            if p.2.left ≠ c.left - n then .error (.ofCause .lengthExceeded) else .ok p := by
      show (if c.left < n then _ else _ : Reader α) c = _
      split
      · rfl
      · show (repeatUntil (c.left - n) read c.left a c >>= fun p =>
          (if p.2.left ≠ c.left - n then fail .lengthExceeded else return p.1 : Reader α) p.2) = _
        congr 1
        funext p
        split <;> rfl
    rw [unfolded]
    by_cases long : n ≤ c.bytes.length
    · rw [if_neg (by rw [c.left_eq]; omega), ← repeatUntil_eq_ok_iff parses some_ long]
      cases repeatUntil (c.left - n) read c.left a c with
      | error fault => simp [bind, Except.bind]
      | ok p =>
        simp only [bind, Except.bind]
        split
        · rename_i passed
          constructor
          · nofun
          · rintro ⟨e, stopped⟩
            cases e
            exact absurd stopped passed
        · rename_i stopped
          rw [not_not] at stopped
          constructor
          · intro e
            cases e
            exact ⟨rfl, stopped⟩
          · exact And.left
    · rw [if_pos (by rw [c.left_eq]; omega)]
      constructor
      · nofun
      · rintro ⟨b, ⟨rfl, _⟩, whole⟩
        rw [whole, List.length_append] at long
        omega
  · intro b a'
    constructor
    · rintro ⟨n, front, body, p, ⟨rfl, chain⟩, rfl⟩
      exact ⟨front, body, p, chain, rfl⟩
    · rintro ⟨front, body, p, chain, rfl⟩
      exact ⟨body.length, front, body, p, ⟨rfl, chain⟩, rfl⟩

end Chain

end Reader

open Reader

/-! ### Numbers and keys -/

namespace Varint

variable {x : UInt8} {input rest : Bytes} {groups n : Nat}

/-- A number in groups of seven bits takes a byte at least. -/
lemma Groups.ne_nil {b : Bytes} (h : Groups b n) : b ≠ [] := by
  cases h with
  | last _ => exact List.cons_ne_nil _ _
  | more _ _ => exact List.cons_ne_nil _ _

/-- A byte that is not marked is a number of its own. -/
lemma readDigits_of_lt (small : x < 128) :
    readDigits (groups + 1) (.ofBytes (x :: input)) = some (n, .ofBytes rest) ↔
      x.toNat = n ∧ input = rest ∧ n < 2 ^ (7 * groups + 1) := by
  have byte : x.toNat < 128 := UInt8.lt_iff_toNat_lt.1 small
  have same : Cursor.ofBytes input = .ofBytes rest ↔ input = rest :=
    ⟨congrArg Cursor.bytes, congrArg Cursor.ofBytes⟩
  simp only [readDigits, Cursor.next?_cons, if_pos small]
  cases groups with
  | zero =>
    by_cases bit : (2 : UInt8) ≤ x
    · rw [if_pos ⟨rfl, bit⟩]
      have two : 2 ≤ x.toNat := UInt8.le_iff_toNat_le.1 bit
      constructor
      · intro read_
        cases read_
      · omega
    · have two : x.toNat < 2 := UInt8.lt_iff_toNat_lt.1 (UInt8.not_le.1 bit)
      rw [if_neg fun h => bit h.2, Option.some.injEq, Prod.mk.injEq, same]
      constructor
      · rintro ⟨rfl, rfl⟩
        exact ⟨rfl, rfl, two⟩
      · rintro ⟨rfl, rfl, _⟩
        exact ⟨rfl, rfl⟩
  | succ groups =>
    have wide : 2 ^ 7 ≤ 2 ^ (7 * (groups + 1) + 1) :=
      Nat.pow_le_pow_right Nat.two_pos (by omega)
    rw [if_neg (by omega), Option.some.injEq, Prod.mk.injEq, same]
    constructor
    · rintro ⟨rfl, rfl⟩
      exact ⟨rfl, rfl, byte.trans_le wide⟩
    · rintro ⟨rfl, rfl, _⟩
      exact ⟨rfl, rfl⟩

/-- A byte that is marked stands before the rest of its number. -/
lemma readDigits_of_le (large : 128 ≤ x) :
    readDigits (groups + 1) (.ofBytes (x :: input)) = some (n, .ofBytes rest) ↔
      ∃ m, readDigits groups (.ofBytes input) = some (m, .ofBytes rest) ∧
        x.toNat - 128 + 128 * m = n := by
  simp only [readDigits, Cursor.next?_cons, if_neg (UInt8.not_lt.2 large)]
  cases readDigits groups (.ofBytes input) with
  | none => simp
  | some found =>
    obtain ⟨m, c⟩ := found
    simp only [Option.some.injEq, Prod.mk.injEq]
    constructor
    · rintro ⟨rfl, rfl⟩
      exact ⟨m, ⟨rfl, rfl⟩, rfl⟩
    · rintro ⟨_, ⟨rfl, rfl⟩, rfl⟩
      exact ⟨rfl, rfl⟩

/-- A number is read where groups spell it that are no more than asked for, the last one of which
has a single bit where they are so many. -/
lemma readDigits_eq_some_iff :
    readDigits groups (.ofBytes input) = some (n, .ofBytes rest) ↔
      ∃ b, Groups b n ∧ b.length ≤ groups ∧ n < 2 ^ (7 * groups - 6) ∧ input = b ++ rest := by
  induction groups generalizing n input with
  | zero =>
    constructor
    · nofun
    · rintro ⟨b, spelled, short, _⟩
      exact absurd (List.length_eq_zero_iff.1 (Nat.le_zero.1 short)) spelled.ne_nil
  | succ groups ih =>
    have bound : 7 * (groups + 1) - 6 = 7 * groups + 1 := by omega
    rw [bound]
    cases input with
    | nil =>
      constructor
      · nofun
      · rintro ⟨b, spelled, _, _, whole⟩
        exact absurd (List.append_eq_nil_iff.1 whole.symm).1 spelled.ne_nil
    | cons x input =>
      by_cases small : x < 128
      · rw [readDigits_of_lt small]
        constructor
        · rintro ⟨rfl, rfl, fits⟩
          exact ⟨[x], .last small, Nat.le_add_left _ _, fits, rfl⟩
        · rintro ⟨b, spelled, _, fits, whole⟩
          cases spelled with
          | last _ =>
            cases whole
            exact ⟨rfl, rfl, fits⟩
          | more large _ =>
            cases whole
            exact absurd small (UInt8.not_lt.2 large)
      · have large : 128 ≤ x := UInt8.not_lt.1 small
        have byte := x.toNat_lt
        -- There is a group left where one is spelled, so the bound of the rest is 128 times less.
        have fewer {b : Bytes} {m : Nat} (spelled : Groups b m) (short : b.length ≤ groups) :
            2 ^ (7 * groups + 1) = 128 * 2 ^ (7 * groups - 6) := by
          have some_ : 0 < b.length := List.length_pos_iff.2 spelled.ne_nil
          rw [show (128 : Nat) = 2 ^ 7 from rfl, ← pow_add]
          congr 1
          omega
        rw [readDigits_of_le large]
        constructor
        · rintro ⟨m, read_, rfl⟩
          obtain ⟨b, spelled, short, fits, rfl⟩ := ih.1 read_
          refine ⟨x :: b, .more large spelled, Nat.succ_le_succ short, ?_, rfl⟩
          rw [fewer spelled short]
          omega
        · rintro ⟨b, spelled, short, fits, whole⟩
          cases spelled with
          | last less =>
            cases whole
            exact absurd less small
          | @more _ b m _ spelled =>
            cases whole
            have short' : b.length ≤ groups := Nat.le_of_succ_le_succ short
            rw [fewer spelled short'] at fits
            exact ⟨m, ih.2 ⟨b, spelled, short', by omega, rfl⟩, rfl⟩

/-- A number of 64 bits is read where it is spelled. -/
lemma parses_read : Parses read Spells := by
  intro c n c'
  have unfolded : read c = .ok (n, c') ↔
      readDigits 10 (.ofBytes c.bytes) = some (n, .ofBytes c'.bytes) := by
    rw [← c.eq_ofBytes, ← c'.eq_ofBytes]
    unfold read maxLength
    cases readDigits 10 c <;> simp
  rw [unfolded, readDigits_eq_some_iff]
  constructor
  · rintro ⟨b, spelled, short, fits, whole⟩
    exact ⟨b, ⟨spelled, short, fits⟩, whole⟩
  · rintro ⟨b, ⟨spelled, short, fits⟩, whole⟩
    exact ⟨b, spelled, short, fits, whole⟩

/-- A number takes a byte at least. -/
lemma Spells.ne_nil {b : Bytes} (h : Spells b n) : b ≠ [] := h.groups.ne_nil

end Varint

/-- A length and as many bytes behind it are parsed as those bytes. -/
lemma parses_readDelimited : Parses readDelimited fun b body => Delimits b body := by
  refine (Varint.parses_read.bind parses_take).congr ?_
  intro b body
  constructor
  · rintro ⟨n, front, _, spelled, ⟨rfl, rfl⟩, rfl⟩
    exact ⟨front, spelled, rfl⟩
  · rintro ⟨front, spelled, rfl⟩
    exact ⟨body.length, front, body, spelled, ⟨rfl, rfl⟩, rfl⟩

/-- A key takes a byte at least. -/
lemma SpellsKey.ne_nil {b : Bytes} {number : Nat} {wireType : WireType}
    (h : SpellsKey b number wireType) : b ≠ [] := h.spells.ne_nil

/-- A wire type is read from its code only. -/
lemma WireType.code_of_ofCode? {n : Nat} {wireType : WireType} (e : ofCode? n = some wireType) :
    wireType.code = n := by
  unfold ofCode? at e
  split at e <;> cases e <;> rfl

/-- A number is the key of a field exactly if it comes apart into the number and the wire type. -/
lemma eq_keyNumber_iff {n number : Nat} {wireType : WireType} :
    n = keyNumber number wireType ↔
      n / 8 = number ∧ WireType.ofCode? (n % 8) = some wireType := by
  have code := wireType.code_lt
  unfold keyNumber
  constructor
  · rintro rfl
    have tail : (8 * number + wireType.code) % 8 = wireType.code := by omega
    rw [tail]
    exact ⟨by omega, WireType.ofCode?_code wireType⟩
  · rintro ⟨rfl, e⟩
    have tail := WireType.code_of_ofCode? e
    omega

/-- A key is parsed as its number and its wire type. -/
lemma parses_readKey : Parses readKey fun b key => SpellsKey b key.1 key.2 := by
  refine (Varint.parses_read.bind (Q := fun n b key => b = [] ∧ n = keyNumber key.1 key.2 ∧
    0 < key.1 ∧ key.1 < 0x20000000) ?_).congr ?_
  · intro n
    by_cases large : 0x100000000 ≤ n
    · rw [if_pos large]
      refine (parses_fail _).congr fun b key => ⟨False.elim, ?_⟩
      rintro ⟨_, e, _, below⟩
      have code := key.2.code_lt
      unfold keyNumber at e
      omega
    · rw [if_neg large]
      cases code : WireType.ofCode? (n % 8) with
      | none =>
        refine (parses_fail _).congr fun b key => ⟨False.elim, ?_⟩
        rintro ⟨_, e, _⟩
        obtain ⟨_, some_⟩ := eq_keyNumber_iff.1 e
        rw [code] at some_
        cases some_
      | some wireType =>
        by_cases zero : n / 8 = 0
        · simp only [if_pos zero]
          refine (parses_fail _).congr fun b key => ⟨False.elim, ?_⟩
          rintro ⟨_, e, positive, _⟩
          obtain ⟨same, _⟩ := eq_keyNumber_iff.1 e
          omega
        · simp only [if_neg zero]
          refine (parses_pure _).congr fun b key => ?_
          constructor
          · rintro ⟨rfl, rfl⟩
            exact ⟨rfl, eq_keyNumber_iff.2 ⟨rfl, code⟩, by omega, by omega⟩
          · rintro ⟨rfl, e, _⟩
            obtain ⟨same, some_⟩ := eq_keyNumber_iff.1 e
            rw [code] at some_
            exact ⟨rfl, Prod.ext same.symm (Option.some.inj some_).symm⟩
  · rintro b ⟨number, wireType⟩
    constructor
    · rintro ⟨_, b, _, spelled, ⟨rfl, rfl, positive, below⟩, rfl⟩
      rw [List.append_nil]
      exact ⟨spelled, positive, below⟩
    · rintro ⟨spelled, positive, below⟩
      exact ⟨_, b, [], spelled, ⟨rfl, rfl, positive, below⟩, (List.append_nil b).symm⟩

/-- An encoded key spells its number and its wire type. -/
lemma spellsKey_encode (number : Nat) (wireType : WireType) (positive : 0 < number)
    (below : number < 0x20000000) :
    SpellsKey (Varint.encode (keyNumber number wireType)) number wireType :=
  parses_readKey.of_reads (reads_key positive below wireType)

/-- Bytes with their length before them are delimited. -/
lemma delimits_delimited {body : Bytes} (fits : body.length < 2 ^ 64) :
    Delimits (delimited body) body :=
  parses_readDelimited.of_reads (reads_delimited fits)

/-! ### Values that are skipped -/

section skip

variable {skipMember : Nat → WireType → Reader Unit} {member : Nat → WireType → Bytes → Prop}
  {number fuel : Nat}

/-- A group is skipped up to its end, member by member. -/
lemma skipGroup_succ (c : Cursor) :
    skipGroup skipMember number (fuel + 1) c =
      (readKey c >>= fun p =>
        (if p.1.2 = .endGroup then
          if p.1.1 = number then return () else fail .unexpectedEndGroup
        else do
          skipMember p.1.1 p.1.2
          skipGroup skipMember number fuel : Reader Unit) p.2) := rfl

/-- What is skipped as a group is a group. -/
lemma skipGroup_sound
    (parses : ∀ inner wireType,
      Parses (skipMember inner wireType) fun b _ => member inner wireType b)
    {c c' : Cursor} (e : skipGroup skipMember number fuel c = .ok ((), c')) :
    ∃ b, Group member number b ∧ c.bytes = b ++ c'.bytes := by
  induction fuel generalizing c with
  | zero => cases e
  | succ fuel ih =>
    rw [skipGroup_succ] at e
    cases first : readKey c with
    | error fault =>
      rw [first] at e
      cases e
    | ok found =>
      obtain ⟨⟨inner, wireType⟩, c₁⟩ := found
      obtain ⟨key, spelled, whole⟩ := (parses_readKey _ _ _).1 first
      rw [first] at e
      change (if wireType = .endGroup then _ else _ : Reader Unit) c₁ = _ at e
      by_cases last : wireType = .endGroup
      · rw [if_pos last] at e
        by_cases same : inner = number
        · rw [if_pos same] at e
          cases e
          subst last same
          exact ⟨key, .ends spelled, whole⟩
        · rw [if_neg same] at e
          cases e
      · rw [if_neg last] at e
        change (skipMember inner wireType c₁ >>= fun p => skipGroup skipMember number fuel p.2) = _
          at e
        cases second : skipMember inner wireType c₁ with
        | error fault =>
          rw [second] at e
          cases e
        | ok found =>
          obtain ⟨_, c₂⟩ := found
          obtain ⟨value, is_member, whole₁⟩ := (parses _ _ _ _ _).1 second
          rw [second] at e
          obtain ⟨rest, group, whole₂⟩ := ih e
          refine ⟨key ++ value ++ rest, .member spelled last is_member group, ?_⟩
          rw [whole, whole₁, whole₂]
          simp only [List.append_assoc]

/-- A group is skipped, if there is fuel for each of its bytes. -/
lemma skipGroup_complete
    (parses : ∀ inner wireType,
      Parses (skipMember inner wireType) fun b _ => member inner wireType b)
    {b : Bytes} (group : Group member number b) (enough : b.length < fuel) (rest : Bytes) :
    skipGroup skipMember number fuel (.ofBytes (b ++ rest)) = .ok ((), .ofBytes rest) := by
  induction group generalizing fuel with
  | @ends key spelled =>
    obtain ⟨fuel, rfl⟩ : ∃ n, fuel = n + 1 := Nat.exists_eq_add_one_of_ne_zero (by omega)
    rw [skipGroup_succ, parses_readKey.reads (a := (number, .endGroup)) spelled rest]
    show (if WireType.endGroup = .endGroup then
        if number = number then return () else fail .unexpectedEndGroup
      else do
        skipMember number .endGroup
        skipGroup skipMember number fuel : Reader Unit) _ = _
    rw [if_pos rfl, if_pos rfl]
    rfl
  | @member inner wireType key value rest' spelled not_last is_member _ ih =>
    obtain ⟨fuel, rfl⟩ : ∃ n, fuel = n + 1 := Nat.exists_eq_add_one_of_ne_zero (by omega)
    have positive : 0 < key.length := List.length_pos_iff.2 spelled.ne_nil
    simp only [List.length_append] at enough
    have enough' : rest'.length < fuel := by omega
    rw [List.append_assoc, List.append_assoc, skipGroup_succ,
      parses_readKey.reads (a := (inner, wireType)) spelled (value ++ (rest' ++ rest))]
    show (if wireType = .endGroup then _ else do
      skipMember inner wireType
      skipGroup skipMember number fuel : Reader Unit) _ = _
    rw [if_neg not_last]
    show (skipMember inner wireType (.ofBytes (value ++ (rest' ++ rest))) >>=
      fun p => skipGroup skipMember number fuel p.2) = _
    rw [(parses inner wireType).reads (a := ()) is_member (rest' ++ rest)]
    exact ih enough'

end skip

/-- A value is skipped where it is well formed. -/
lemma parses_skipField (depth number : Nat) (wireType : WireType) :
    Parses (skipField depth number wireType) fun b _ => Skippable depth number wireType b := by
  induction depth generalizing number wireType with
  | zero => exact parses_fail _
  | succ depth ih =>
    cases wireType with
    | varint =>
      refine (Varint.parses_read.map fun _ => ()).congr fun b _ => ?_
      constructor
      · rintro ⟨n, spelled, _⟩
        exact ⟨n, spelled⟩
      · rintro ⟨n, spelled⟩
        exact ⟨n, spelled, rfl⟩
    | sixtyFourBit => exact parses_skip 8
    | lengthDelimited =>
      refine (Varint.parses_read.bind parses_skip).congr fun b _ => ?_
      constructor
      · rintro ⟨n, front, body, spelled, rfl, rfl⟩
        exact ⟨body, front, spelled, rfl⟩
      · rintro ⟨body, front, spelled, rfl⟩
        exact ⟨body.length, front, body, spelled, rfl, rfl⟩
    | startGroup =>
      intro c u c'
      show skipGroup (skipField depth) number (c.left + 1) c = _ ↔ _
      constructor
      · intro e
        exact skipGroup_sound ih e
      · rintro ⟨b, group, whole⟩
        have start : c = .ofBytes (b ++ c'.bytes) := Cursor.ext whole
        have enough : b.length < c.left + 1 := by
          rw [c.left_eq, whole, List.length_append]
          omega
        have skipped := skipGroup_complete ih group enough c'.bytes
        rwa [← start, ← c'.eq_ofBytes] at skipped
    | endGroup => exact parses_fail _
    | thirtyTwoBit => exact parses_skip 4

end StoreClient.Payload
