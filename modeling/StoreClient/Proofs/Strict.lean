import Mathlib
import StoreClient.Proofs.Parses
import StoreClient.Proofs.RoundTrip

/-!
# Decoding accepts the grammar

A payload is decoded exactly if the grammar accepts it, and then to the message that it means there
(`Message.decode_strict`), though lengths are held against the whole input only while the fields of
an inner message are read.

Between the reader and the grammar stands what one more occurrence of a field makes of a record
(`Fields.Adds`). The reader of a field parses it (`Fields.parses_read`, by induction on kinds and
fields), so that decoding follows a chain of occurrences from the empty record. What fields mean
grows by one occurrence after the other as it does in the chain (`Fields.gathers`), and the chain
goes on as long as they are acceptable (`Fields.exists_adds_iff`).
-/

namespace StoreClient

namespace Payload

open Reader

/-! ### One more occurrence -/

/-- What one more occurrence makes of the slot of a field. -/
def Rule.Adds {α : Type} (default : α) (adds : Occurrence → α → α → Prop) :
    (rule : Rule) → Occurrence → rule.Slot α → rule.Slot α → Prop
  | .required, o, (old : α), (new : α) => adds o old new
  | .optional, o, (old : Option α), (new : Option α) =>
    ∃ v, adds o (old.getD default) v ∧ new = some v
  | .repeated, o, (old : List α), (new : List α) => ∃ v, adds o default v ∧ new = old ++ [v]

/-- A field with its key that makes a new value of the one so far. -/
def Piece {α : Type} (adds : Occurrence → α → α → Prop) (a : α) (b : Bytes) (a' : α) : Prop :=
  ∃ o key, SpellsKey key o.number o.wireType ∧ adds o a a' ∧ b = key ++ o.value

mutual

/-- What one more occurrence makes of a value. -/
def Kind.Adds : (k : Kind) → (depth : Nat) → Occurrence → k.Val → k.Val → Prop
  | .message _ _, 0, _, _, _ => False
  | .message _ fields, depth + 1, o, (old : fields.Record), (new : fields.Record) =>
    o.wireType = .lengthDelimited ∧
      ∃ body, Delimits o.value body ∧ Chain (Piece (fields.Adds depth)) old body new
  | k, _, o, _, new => k.Means o new

/-- What one more occurrence makes of a record. -/
def Fields.Adds : (fields : Fields) → (depth : Nat) → Occurrence → fields.Record →
    fields.Record → Prop
  | .nil, depth, o, _, _ => Skippable depth o.number o.wireType o.value
  | .cons number _ rule kind rest, depth, o, (slot, more), (slot', more') =>
    if o.number = number then rule.Adds kind.default (kind.Adds depth) o slot slot' ∧ more' = more
    else slot' = slot ∧ rest.Adds depth o more more'

end

section adds

variable {label : String} {depth number : Nat} {rule : Rule} {kind : Kind} {rest : Fields}
  {o : Occurrence} {slot slot' : rule.Slot kind.Val} {more more' : rest.Record}

/-- An occurrence of the first number is added to the first slot. -/
lemma Fields.adds_first (same : o.number = number) :
    (Fields.cons number label rule kind rest).Adds depth o (slot, more) (slot', more') ↔
      rule.Adds kind.default (kind.Adds depth) o slot slot' ∧ more' = more := by
  rw [Fields.Adds, if_pos same]

/-- An occurrence of another number is added to the other slots. -/
lemma Fields.adds_behind (other : o.number ≠ number) :
    (Fields.cons number label rule kind rest).Adds depth o (slot, more) (slot', more') ↔
      slot' = slot ∧ rest.Adds depth o more more' := by
  rw [Fields.Adds, if_neg other]

end adds

/-- A field takes a byte at least. -/
lemma Piece.ne_nil {α : Type} {adds : Occurrence → α → α → Prop} {a a' : α} {b : Bytes}
    (h : Piece adds a b a') : b ≠ [] := by
  obtain ⟨o, key, spelled, _, rfl⟩ := h
  simp [spelled.ne_nil]

section parses

variable {α : Type} {read : Reader α} {spells : Bytes → α → Prop}

/-- A reader that expects a wire type parses only values of this type. -/
lemma Reader.Parses.expecting (h : Parses read spells) (expected found : WireType) :
    Parses (do
      expect expected found
      read) fun b a => found = expected ∧ spells b a := by
  unfold expect
  by_cases same : found = expected
  · rw [if_pos same]
    exact h.congr fun b a => (and_iff_right same).symm
  · rw [if_neg same]
    exact (parses_fail _).congr fun b a => ⟨False.elim, fun h => same h.1⟩

/-- A number behind its key is read as what is made of it. -/
lemma parses_counts (f : Nat → α) (wireType : WireType) (number : Nat) :
    Parses (do
      expect .varint wireType
      return f (← Varint.read)) fun b v => Counts f ⟨number, wireType, b⟩ v :=
  (Varint.parses_read.map f).expecting .varint wireType

/-- A field is read, key and value. -/
lemma parses_piece {read : Nat → WireType → α → Reader α} {adds : Occurrence → α → α → Prop}
    (parses : ∀ number wireType a,
      Parses (read number wireType a) fun b a' => adds ⟨number, wireType, b⟩ a a') (a : α) :
    Parses (do
      let (number, wireType) ← readKey
      read number wireType a) (Piece adds a) := by
  refine (parses_readKey.bind fun key => parses key.1 key.2 a).congr ?_
  intro b a'
  constructor
  · rintro ⟨⟨number, wireType⟩, key, value, spelled, adds, rfl⟩
    exact ⟨⟨number, wireType, value⟩, key, spelled, adds, rfl⟩
  · rintro ⟨⟨number, wireType, value⟩, key, spelled, adds, rfl⟩
    exact ⟨(number, wireType), key, value, spelled, adds, rfl⟩

/-- One more occurrence is read into a slot. -/
lemma Rule.parses_read (default : α) {read : α → Reader α} {adds : Occurrence → α → α → Prop}
    {number : Nat} {wireType : WireType}
    (parses : ∀ old, Parses (read old) fun b v => adds ⟨number, wireType, b⟩ old v) (rule : Rule)
    (slot : rule.Slot α) :
    Parses (rule.read default read slot) fun b new =>
      rule.Adds default adds ⟨number, wireType, b⟩ slot new := by
  cases rule with
  | required => exact parses slot
  | optional => exact (parses (Option.getD slot default)).map some
  | «repeated» =>
    change List α at slot
    exact (parses default).map (slot ++ [·])

end parses

mutual

/-- The reader of a value parses what one more occurrence makes of it. -/
theorem Kind.parses_read : (k : Kind) → (depth number : Nat) → (wireType : WireType) →
    (old : k.Val) →
    Parses (k.read depth wireType old) fun b v => k.Adds depth ⟨number, wireType, b⟩ old v
  | .bytes, _, _, wireType, _ => parses_readDelimited.expecting .lengthDelimited wireType
  | .uint32, _, number, wireType, _ => parses_counts UInt32.ofNat wireType number
  | .bool, _, number, wireType, _ => parses_counts (fun n => decide (n ≠ 0)) wireType number
  | .sint64, _, number, wireType, _ =>
    parses_counts (fun n => Int64.ofInt (unzigzag n)) wireType number
  | .enumeration, _, number, wireType, _ => parses_counts Int32.ofNat wireType number
  | .float32, _, _, wireType, _ => by
    refine (((parses_take 4).map fun bytes => UInt32.ofNat (Bytes.toNatLittleEndian bytes)).congr
      fun b v => ?_).expecting .thirtyTwoBit wireType
    constructor
    · rintro ⟨_, ⟨four, rfl⟩, rfl⟩
      exact ⟨four, rfl⟩
    · rintro ⟨four, rfl⟩
      exact ⟨b, ⟨four, rfl⟩, rfl⟩
  | .message _ _, 0, _, wireType, _ =>
    ((parses_fail .recursionLimit).expecting .lengthDelimited wireType).congr
      fun _ _ => ⟨And.right, False.elim⟩
  | .message name fields, depth + 1, _, wireType, old => by
    have pieces := parses_piece (fields.parses_read name depth)
    refine ((parses_readWithin Varint.parses_read pieces (fun _ _ _ => Piece.ne_nil) old).congr
      fun b r => ?_).expecting .lengthDelimited wireType
    constructor
    · rintro ⟨front, body, spelled, chain, rfl⟩
      exact ⟨body, ⟨front, spelled, rfl⟩, chain⟩
    · rintro ⟨body, ⟨front, spelled, rfl⟩, chain⟩
      exact ⟨front, body, spelled, chain, rfl⟩

/-- The reader of a field parses what one more occurrence makes of a record. -/
theorem Fields.parses_read : (fields : Fields) → (name : String) → (depth number : Nat) →
    (wireType : WireType) → (r : fields.Record) →
    Parses (fields.read name depth number wireType r) fun b r' =>
      fields.Adds depth ⟨number, wireType, b⟩ r r'
  | .nil, _, depth, number, wireType, () =>
    ((parses_skipField depth number wireType).map fun _ => ()).congr fun _ _ =>
      ⟨fun ⟨_, skippable, _⟩ => skippable, fun skippable => ⟨(), skippable, rfl⟩⟩
  | .cons n label rule kind rest, name, depth, number, wireType, (slot, more) => by
    by_cases first : number = n
    · subst first
      rw [Fields.read_first]
      have slots := rule.parses_read kind.default (kind.parses_read depth number wireType) slot
      refine ((slots.located ⟨name, label⟩).map (·, more)).congr ?_
      rintro b ⟨slot', more'⟩
      constructor
      · rintro ⟨_, adds, e⟩
        cases e
        exact (Fields.adds_first rfl).2 ⟨adds, rfl⟩
      · intro h
        obtain ⟨adds, rfl⟩ := (Fields.adds_first rfl).1 h
        exact ⟨slot', adds, rfl⟩
    · rw [Fields.read_behind first]
      refine ((rest.parses_read name depth number wireType more).map (slot, ·)).congr ?_
      rintro b ⟨slot', more'⟩
      constructor
      · rintro ⟨_, adds, e⟩
        cases e
        exact (Fields.adds_behind first).2 ⟨rfl, adds⟩
      · intro h
        obtain ⟨rfl, adds⟩ := (Fields.adds_behind first).1 h
        exact ⟨more', adds, rfl⟩

end

/-! ### Meanings grow by occurrences -/

/-- What occurrences mean is what one after the other makes of the default. -/
structure Gathers {α : Type} (denotes : List Occurrence → α → Prop) (default : α)
    (adds : Occurrence → α → α → Prop) : Prop where
  nil : ∀ v, denotes [] v ↔ v = default
  snoc : ∀ os o v, denotes (os ++ [o]) v ↔ ∃ old, denotes os old ∧ adds o old v

/-- A list with one more in it is related to lists with one more in them. -/
lemma forall₂_snoc_iff {α β : Type} {R : α → β → Prop} {as : List α} {a : α} {bs : List β} :
    List.Forall₂ R (as ++ [a]) bs ↔
      ∃ front b, List.Forall₂ R as front ∧ R a b ∧ bs = front ++ [b] := by
  constructor
  · intro h
    induction as generalizing bs with
    | nil =>
      obtain ⟨b, bs, related, others, rfl⟩ := List.forall₂_cons_left_iff.1 h
      cases others
      exact ⟨[], b, .nil, related, rfl⟩
    | cons a' as ih =>
      obtain ⟨b', bs, related, others, rfl⟩ := List.forall₂_cons_left_iff.1 h
      obtain ⟨front, b, before, last, rfl⟩ := ih others
      exact ⟨b' :: front, b, .cons related before, last, rfl⟩
  · rintro ⟨front, b, before, last, rfl⟩
    exact List.rel_append before (.cons last .nil)

section gathers

variable {α : Type} {denotes : List Occurrence → α → Prop} {default : α}
  {adds : Occurrence → α → α → Prop}

/-- Of occurrences of which the last counts, each replaces the value so far. -/
lemma gathers_last (means : Occurrence → α → Prop) (default : α) :
    Gathers (Last means default) default fun o _ v => means o v where
  nil v := by
    constructor
    · rintro ⟨vs, none_, rfl⟩
      cases none_
      rfl
    · rintro rfl
      exact ⟨[], .nil, rfl⟩
  snoc os o v := by
    constructor
    · rintro ⟨vs, all, rfl⟩
      obtain ⟨front, w, before, last, rfl⟩ := forall₂_snoc_iff.1 all
      exact ⟨_, ⟨front, before, rfl⟩, by simpa using last⟩
    · rintro ⟨_, ⟨front, before, rfl⟩, last⟩
      exact ⟨front ++ [v], forall₂_snoc_iff.2 ⟨front, v, before, last, rfl⟩, by simp⟩

/-- One occurrence means what it makes of the default. -/
lemma Gathers.single (h : Gathers denotes default adds) (o : Occurrence) (v : α) :
    denotes [o] v ↔ adds o default v := by
  rw [← List.nil_append [o], h.snoc]
  simp only [h.nil, exists_eq_left]

/-- The slot of a field gathers as its values do. -/
lemma Gathers.rule (h : Gathers denotes default adds) (rule : Rule) :
    Gathers (rule.Denotes denotes) (rule.empty default) (rule.Adds default adds) := by
  cases rule with
  | required => exact h
  | optional =>
    constructor
    · intro slot
      change Option α at slot
      show (_ ∨ _) ↔ slot = none
      simp
    · intro os o slot
      constructor
      · rintro (⟨none_, _⟩ | ⟨v, _, means, rfl⟩)
        · simp at none_
        obtain ⟨old, before, last⟩ := (h.snoc os o v).1 means
        cases os with
        | nil =>
          obtain rfl := (h.nil old).1 before
          exact ⟨none, .inl ⟨rfl, rfl⟩, v, last, rfl⟩
        | cons first os =>
          exact ⟨some old, .inr ⟨old, List.cons_ne_nil _ _, before, rfl⟩, v, last, rfl⟩
      · rintro ⟨old, before, v, last, rfl⟩
        refine .inr ⟨v, by simp, (h.snoc os o v).2 ?_, rfl⟩
        obtain ⟨rfl, rfl⟩ | ⟨w, _, means, rfl⟩ := before
        · exact ⟨default, (h.nil default).2 rfl, last⟩
        · exact ⟨w, means, last⟩
  | «repeated» =>
    constructor
    · intro slot
      exact List.forall₂_nil_left_iff
    · intro os o slot
      constructor
      · intro all
        obtain ⟨front, v, before, last, rfl⟩ := forall₂_snoc_iff.1 all
        exact ⟨front, before, v, (h.single o v).1 last, rfl⟩
      · rintro ⟨front, before, v, last, rfl⟩
        exact forall₂_snoc_iff.2 ⟨front, v, before, (h.single o v).2 last, rfl⟩

/-- The fields of a message are gathered as they stand in it. -/
lemma Gathers.sequence_iff (h : Gathers denotes default adds) {os : List Occurrence} {body : Bytes}
    {v : α} :
    (∃ inner, Sequence inner body ∧ denotes (os ++ inner) v) ↔
      ∃ old, denotes os old ∧ Chain (Piece adds) old body v := by
  constructor
  · rintro ⟨inner, sequence, means⟩
    -- The first field of `inner` is the first piece of the chain, and joins `os`.
    induction sequence generalizing os with
    | nil =>
      rw [List.append_nil] at means
      exact ⟨v, means, .nil v⟩
    | @cons o _ key _ spelled _ ih =>
      rw [List.append_cons] at means
      obtain ⟨new, before, chain⟩ := ih means
      obtain ⟨old, before, adds⟩ := (h.snoc _ _ _).1 before
      exact ⟨old, before, .cons ⟨o, key, spelled, adds, rfl⟩ chain⟩
  · rintro ⟨old, before, chain⟩
    induction chain generalizing os with
    | nil v => exact ⟨[], .nil, by rwa [List.append_nil]⟩
    | cons piece _ ih =>
      obtain ⟨o, key, spelled, adds, rfl⟩ := piece
      obtain ⟨inner, sequence, means⟩ := ih ((h.snoc _ _ _).2 ⟨_, before, adds⟩)
      exact ⟨o :: inner, .cons spelled sequence, by rwa [List.append_cons]⟩

end gathers

/-- One more field stands behind its own number. -/
lemma behind_snoc (number : Nat) (os : List Occurrence) (o : Occurrence) :
    behind number (os ++ [o]) = if o.number = number then behind number os ++ [o]
      else behind number os := by
  unfold behind
  rw [List.filter_append, List.filter_singleton]
  split <;> simp_all

/-- One more field stands besides every other number. -/
lemma besides_snoc (number : Nat) (os : List Occurrence) (o : Occurrence) :
    besides number (os ++ [o]) = if o.number = number then besides number os
      else besides number os ++ [o] := by
  unfold besides
  rw [List.filter_append, List.filter_singleton]
  split <;> simp_all

mutual

/-- What values mean that stand behind one number grows by one after the other. -/
theorem Kind.gathers : (k : Kind) → (depth : Nat) →
    Gathers (k.Denotes depth) k.default (k.Adds depth)
  | .bytes, _ | .uint32, _ | .bool, _ | .sint64, _ | .enumeration, _ | .float32, _ =>
    gathers_last _ _
  | .message _ fields, 0 =>
    { nil := fun _ => and_iff_right rfl
      snoc := fun os o _ => by
        constructor
        · rintro ⟨none_, _⟩
          simp at none_
        · rintro ⟨_, _, nothing⟩
          exact nothing.elim }
  | .message _ fields, depth + 1 =>
    { nil := fun (r : fields.Record) => by
        refine Iff.trans ?_ ((fields.gathers depth).nil r)
        constructor
        · rintro ⟨bodies, none_, means⟩
          cases none_
          exact means
        · intro means
          exact ⟨[], .nil, means⟩
      -- The fields of the last message come behind those of all before it.
      snoc := fun os o (r : fields.Record) => by
        constructor
        · rintro ⟨bodies, all, means⟩
          obtain ⟨front, inner, before, ⟨delimited, body, delimits, sequence⟩, rfl⟩ :=
            forall₂_snoc_iff.1 all
          rw [List.flatten_concat] at means
          obtain ⟨old, means, chain⟩ :=
            (fields.gathers depth).sequence_iff.1 ⟨inner, sequence, means⟩
          exact ⟨old, ⟨front, before, means⟩, delimited, body, delimits, chain⟩
        · rintro ⟨old, ⟨front, before, means⟩, delimited, body, delimits, chain⟩
          obtain ⟨inner, sequence, means⟩ :=
            (fields.gathers depth).sequence_iff.2 ⟨old, means, chain⟩
          refine ⟨front ++ [inner], ?_, by rwa [List.flatten_concat]⟩
          exact forall₂_snoc_iff.2
            ⟨front, inner, before, ⟨delimited, body, delimits, sequence⟩, rfl⟩ }

/-- What fields mean as a message grows by one after the other. -/
theorem Fields.gathers : (fields : Fields) → (depth : Nat) →
    Gathers (fields.Denotes depth) fields.empty (fields.Adds depth)
  | .nil, depth =>
    { nil := fun () => iff_of_true (fun _ none_ => absurd none_ List.not_mem_nil) rfl
      snoc := fun os o () => by
        simp only [Fields.Denotes, Fields.Adds, List.forall_mem_append, List.forall_mem_singleton]
        exact ⟨fun h => ⟨(), h⟩, fun ⟨_, h⟩ => h⟩ }
  | .cons number _ rule kind rest, depth =>
    { nil := fun (slot, more) => by
        have first := ((kind.gathers depth).rule rule).nil slot
        have others := (rest.gathers depth).nil more
        exact (and_congr first others).trans Prod.mk_inj.symm
      snoc := fun os o (slot, more) => by
        have first := ((kind.gathers depth).rule rule).snoc (behind number os) o
        have others := (rest.gathers depth).snoc (besides number os) o
        by_cases same : o.number = number
        · simp only [Fields.Denotes, behind_snoc, besides_snoc, if_pos same, first]
          constructor
          · rintro ⟨⟨old, before, last⟩, others⟩
            exact ⟨(old, more), ⟨before, others⟩, (Fields.adds_first same).2 ⟨last, rfl⟩⟩
          · rintro ⟨⟨old, _⟩, ⟨before, others⟩, h⟩
            obtain ⟨last, rfl⟩ := (Fields.adds_first same).1 h
            exact ⟨⟨old, before, last⟩, others⟩
        · simp only [Fields.Denotes, behind_snoc, besides_snoc, if_neg same, others]
          constructor
          · rintro ⟨first, old, before, last⟩
            exact ⟨(slot, old), ⟨first, before⟩, (Fields.adds_behind same).2 ⟨rfl, last⟩⟩
          · rintro ⟨⟨_, old⟩, ⟨first, before⟩, h⟩
            obtain ⟨rfl, last⟩ := (Fields.adds_behind same).1 h
            exact ⟨first, old, before, last⟩ }

end

/-! ### Acceptable fields -/

section accepts

variable {α : Type} {adds : Occurrence → α → α → Prop}

/-- Where every field is taken exactly if it is acceptable, a chain is a sequence of such. -/
lemma exists_chain_iff {accepts : Occurrence → Prop}
    (total : ∀ o old, (∃ new, adds o old new) ↔ accepts o) {old : α} {body : Bytes} :
    (∃ new, Chain (Piece adds) old body new) ↔
      ∃ os, Sequence os body ∧ ∀ o ∈ os, accepts o := by
  constructor
  · rintro ⟨new, chain⟩
    induction chain with
    | nil _ => exact ⟨[], .nil, List.forall_mem_nil _⟩
    | cons piece _ ih =>
      obtain ⟨o, key, spelled, added, rfl⟩ := piece
      obtain ⟨os, sequence, all⟩ := ih
      have first : accepts o := (total o _).1 ⟨_, added⟩
      exact ⟨o :: os, .cons spelled sequence, List.forall_mem_cons.2 ⟨first, all⟩⟩
  · rintro ⟨os, sequence, all⟩
    induction sequence generalizing old with
    | nil => exact ⟨old, .nil old⟩
    | @cons o _ key _ spelled _ ih =>
      obtain ⟨first, others⟩ := List.forall_mem_cons.1 all
      obtain ⟨new, added⟩ := (total o old).2 first
      obtain ⟨last, chain⟩ := ih others
      exact ⟨last, .cons ⟨o, key, spelled, added, rfl⟩ chain⟩

/-- An occurrence can be added to a slot just where it is accepted. -/
lemma Rule.exists_adds_iff {o : Occurrence} {accepts : Prop} (default : α)
    (total : ∀ old, (∃ new, adds o old new) ↔ accepts) (rule : Rule) (slot : rule.Slot α) :
    (∃ slot', rule.Adds default adds o slot slot') ↔ accepts := by
  cases rule with
  | required => exact total slot
  | optional =>
    rw [← total (Option.getD slot default)]
    exact ⟨fun ⟨_, v, added, _⟩ => ⟨v, added⟩, fun ⟨v, added⟩ => ⟨some v, v, added, rfl⟩⟩
  | «repeated» =>
    change List α at slot
    rw [← total default]
    exact ⟨fun ⟨_, v, added, _⟩ => ⟨v, added⟩, fun ⟨v, added⟩ => ⟨slot ++ [v], v, added, rfl⟩⟩

end accepts

mutual

/-- Acceptable values are those of which something is made, whatever the value so far. -/
theorem Kind.exists_adds_iff : (k : Kind) → (depth : Nat) → (o : Occurrence) → (old : k.Val) →
    ((∃ new, k.Adds depth o old new) ↔ k.Accepts depth o)
  | .bytes, _, _, _ | .uint32, _, _, _ | .bool, _, _, _ | .sint64, _, _, _
  | .enumeration, _, _, _ | .float32, _, _, _ => Iff.rfl
  | .message _ _, 0, _, _ => ⟨fun ⟨_, nothing⟩ => nothing, False.elim⟩
  | .message _ fields, depth + 1, o, (old : fields.Record) => by
    have inside (body : Bytes) :
        (∃ new, Chain (Piece (fields.Adds depth)) old body new) ↔
          ∃ inner, Sequence inner body ∧ ∀ i ∈ inner, fields.Accepts depth i :=
      exists_chain_iff (fields.exists_adds_iff depth)
    constructor
    · rintro ⟨new, delimited, body, delimits, chain⟩
      obtain ⟨inner, sequence, all⟩ := (inside body).1 ⟨new, chain⟩
      exact ⟨delimited, body, inner, delimits, sequence, all⟩
    · rintro ⟨delimited, body, inner, delimits, sequence, all⟩
      obtain ⟨new, chain⟩ := (inside body).2 ⟨inner, sequence, all⟩
      exact ⟨new, delimited, body, delimits, chain⟩

/-- Acceptable fields are those that make something of a record, whatever the record so far. -/
theorem Fields.exists_adds_iff : (fields : Fields) → (depth : Nat) → (o : Occurrence) →
    (old : fields.Record) → ((∃ new, fields.Adds depth o old new) ↔ fields.Accepts depth o)
  | .nil, _, _, () => ⟨fun ⟨_, skippable⟩ => skippable, fun skippable => ⟨(), skippable⟩⟩
  | .cons number label rule kind rest, depth, o, (slot, more) => by
    by_cases same : o.number = number
    · rw [Fields.Accepts, if_pos same,
        ← rule.exists_adds_iff kind.default (kind.exists_adds_iff depth o) slot]
      constructor
      · rintro ⟨⟨slot', _⟩, added⟩
        exact ⟨slot', ((Fields.adds_first same).1 added).1⟩
      · rintro ⟨slot', added⟩
        exact ⟨(slot', more), (Fields.adds_first same).2 ⟨added, rfl⟩⟩
    · rw [Fields.Accepts, if_neg same, ← rest.exists_adds_iff depth o more]
      constructor
      · rintro ⟨⟨_, more'⟩, added⟩
        exact ⟨more', ((Fields.adds_behind same).1 added).2⟩
      · rintro ⟨more', added⟩
        exact ⟨(slot, more'), (Fields.adds_behind same).2 ⟨rfl, added⟩⟩

end

/-! ### Payloads -/

namespace Schema

variable {s : Schema} {payload : Bytes} {r : s.Record}

/-- Decoding follows the fields of a payload from the empty record. -/
lemma decode_eq_ok_iff_chain :
    s.decode payload = .ok r ↔
      Chain (Piece (s.fields.Adds maxDepth)) s.fields.empty payload r := by
  have parses : ∀ r, Parses (s.readField r) (Piece (s.fields.Adds maxDepth) r) :=
    parses_piece (s.fields.parses_read s.name maxDepth)
  have some_ (r : s.Record) (b : Bytes) (r' : s.Record) :
      Piece (s.fields.Adds maxDepth) r b r' → b ≠ [] := Piece.ne_nil
  constructor
  · intro e
    obtain ⟨c, e⟩ := eq_ok_of_run e
    have enough : (Cursor.ofBytes payload).bytes.length ≤ 0 + payload.length :=
      (Nat.zero_add _).ge
    obtain ⟨used, b, chain, whole⟩ := repeatUntil_sound parses some_ enough e
    rw [List.length_eq_zero_iff.1 (Nat.le_zero.1 used), List.append_nil] at whole
    rwa [← whole] at chain
  · intro chain
    have read_ := (chain.repeats parses some_).repeatUntil payload.length le_rfl []
    rw [List.append_nil] at read_
    exact Reader.run_eq_ok read_

/-- A payload is decoded to a record just where it denotes the record. -/
lemma decode_eq_ok_iff : s.decode payload = .ok r ↔ s.Denotes payload r := by
  have gathers := s.fields.gathers maxDepth
  have whole : (∃ os, Sequence os payload ∧ s.fields.Denotes maxDepth ([] ++ os) r) ↔
      ∃ old, s.fields.Denotes maxDepth [] old ∧
        Chain (Piece (s.fields.Adds maxDepth)) old payload r :=
    gathers.sequence_iff
  simp only [gathers.nil, exists_eq_left] at whole
  rw [decode_eq_ok_iff_chain, ← whole]
  rfl

/-- A payload is decoded just where it is accepted. -/
lemma exists_decode_iff : (∃ r, s.decode payload = .ok r) ↔ s.Accepts payload := by
  simp only [decode_eq_ok_iff_chain]
  exact exists_chain_iff (s.fields.exists_adds_iff maxDepth)

end Schema

end Payload

namespace Message

open Payload

variable {α : Type} [Message α]

/-- A message is decoded where its record is. -/
lemma decode_eq_ok_iff {payload : Bytes} {m : α} :
    decode payload = .ok m ↔ (schema α).decode payload = .ok (toRecord m) := by
  unfold decode
  cases (schema α).decode payload with
  | error fault => exact ⟨nofun, nofun⟩
  | ok r =>
    constructor
    · intro e
      cases e
      rw [toRecord_ofRecord]
    · intro e
      cases e
      exact congrArg Except.ok (ofRecord_toRecord m)

/-- A payload is decoded exactly if it is a sequence of acceptable fields, and then to the message
that it means: of several scalars the last one, the elements of a repeated field in order, several
messages as one that has the fields of each, defaults for what is missing. As the bytes of a message
inside are such a sequence themselves, to their end, no field of it reaches past that. -/
theorem decode_strict (payload : Bytes) :
    ((∃ m : α, decode payload = .ok m) ↔ (schema α).Accepts payload) ∧
      ∀ m : α, decode payload = .ok m ↔ (schema α).Denotes payload (toRecord m) := by
  constructor
  · rw [← Schema.exists_decode_iff]
    constructor
    · rintro ⟨m, e⟩
      exact ⟨toRecord m, decode_eq_ok_iff.1 e⟩
    · rintro ⟨r, e⟩
      refine ⟨ofRecord r, decode_eq_ok_iff.2 ?_⟩
      rw [e, toRecord_ofRecord]
  · intro m
    rw [decode_eq_ok_iff, Schema.decode_eq_ok_iff]

/-- The bucket of this link would be the byte behind the link. -/
example : (Content.schema.decode [50, 2, 10, 1, 7]).isOk = false := by decide +kernel

end Message

end StoreClient
