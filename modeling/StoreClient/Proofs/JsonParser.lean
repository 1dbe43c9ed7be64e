import Mathlib
import StoreClient.Proofs.JsonText

/-!
# What the parser accepts

Whatever a scanner or a parser takes off the front of a text is of its part of the grammar. With the
other direction the parser accepts the texts of the grammar and nothing else
(`parse?_eq_some_iff`).

A value is parsed with fuel, and so are the elements and members in it, one from the other. The
three are shown together by induction on the fuel (`parse_took`), each from what the other two take
with one unit less.
-/

namespace StoreClient.Json

/-! ### Strings -/

section Raw

variable {c : Char} {s raw rest : List Char}

/-- Only hexadecimal digits are read as such. -/
lemma isHex_of_hexDigit? {n : Nat} (e : hexDigit? c = some n) : IsHex c := by
  unfold hexDigit? at e
  split at e
  · exact .inl ‹_›
  · split at e
    · exact .inr (.inl ‹_›)
    · split at e
      · exact .inr (.inr ‹_›)
      · cases e

/-- A code is read of four hexadecimal digits only. -/
lemma isHex_of_hexUnit? {a b c d : Char} {n : Nat} (e : hexUnit? a b c d = some n) :
    ∀ digit ∈ [a, b, c, d], IsHex digit := by
  unfold hexUnit? at e
  simp only [Option.bind_eq_bind, Option.bind_eq_some_iff] at e
  obtain ⟨_, one, _, two, _, three, _, four, _⟩ := e
  simp [isHex_of_hexDigit? one, isHex_of_hexDigit? two, isHex_of_hexDigit? three,
    isHex_of_hexDigit? four]

/-- Only the letters of the grammar are read behind a backslash. -/
lemma mem_letters_of_escapeOf? {e : Char} (h : escapeOf? c = some e) : c ∈ letters := by
  unfold escapeOf? at h
  split at h
  iterate 8
    · decide
  · cases h

/-- What the scanner takes is a string up to its closing quote. -/
lemma scanString_eq_some (e : scanString s = some (raw, rest)) :
    Raw raw ∧ s = raw ++ '"' :: rest := by
  fun_induction scanString s generalizing raw with
  | case1 => cases e
  | case2 behind =>
    cases e
    exact ⟨.nil, rfl⟩
  | case3 a b c d s ih =>
    simp only [Option.bind_eq_bind, Option.bind_eq_some_iff] at e
    obtain ⟨_, unit, ⟨later, _⟩, scanned, e⟩ := e
    cases e
    obtain ⟨h, rfl⟩ := ih scanned
    exact ⟨.unicode (isHex_of_hexUnit? unit) h, rfl⟩
  | case4 c s _ ih =>
    simp only [Option.bind_eq_bind, Option.bind_eq_some_iff] at e
    obtain ⟨_, escape, ⟨later, _⟩, scanned, e⟩ := e
    cases e
    obtain ⟨h, rfl⟩ := ih scanned
    exact ⟨.escape (mem_letters_of_escapeOf? escape) h, rfl⟩
  | case5 => cases e
  | case6 c s quote _ alone printed ih =>
    simp only [Option.bind_eq_bind, Option.bind_eq_some_iff] at e
    obtain ⟨⟨later, _⟩, scanned, e⟩ := e
    cases e
    obtain ⟨h, rfl⟩ := ih scanned
    have other : c ≠ '\\' := by
      intro backslash
      cases later with
      | nil => exact alone _ _ backslash rfl
      | cons l later => exact alone _ _ backslash rfl
    exact ⟨.plain quote other (Nat.not_lt.1 printed) h, rfl⟩

end Raw

/-! ### Numbers -/

section Literal

variable {s digits whole fraction exponent literal sign rest : List Char}

/-- What the scanner takes is a run of digits. -/
lemma scanDigits_eq_some (e : scanDigits s = some (digits, rest)) :
    Digits digits ∧ s = digits ++ rest := by
  unfold scanDigits at e
  split at e
  · cases e
  · rename_i some_
    have spanned := Option.some.inj e
    have parts : (s.takeWhile Char.isDigit, s.dropWhile Char.isDigit) = (digits, rest) := by
      rw [← List.span_eq_takeWhile_dropWhile]
      exact spanned
    cases parts
    refine ⟨⟨fun empty => some_ (s.dropWhile Char.isDigit) ?_, fun d m => ?_⟩, ?_⟩
    · rw [spanned, empty]
    · exact List.mem_takeWhile_imp m
    · exact List.takeWhile_append_dropWhile.symm

/-- What the scanner takes is the whole part of a number. -/
lemma scanWhole_eq_some (e : scanWhole s = some (whole, rest)) :
    Whole whole ∧ s = whole ++ rest := by
  unfold scanWhole at e
  simp only [Option.bind_eq_bind, Option.bind_eq_some_iff] at e
  obtain ⟨⟨digits, behind⟩, scanned, e⟩ := e
  obtain ⟨h, rfl⟩ := scanDigits_eq_some scanned
  simp only at e
  split at e
  · cases e
  · rename_i single
    cases e
    refine ⟨?_, rfl⟩
    by_cases zero : whole.head? = some '0'
    · obtain ⟨d, later, rfl, _⟩ := h.exists_cons
      cases zero
      cases later with
      | nil => exact .zero
      | cons l later => exact absurd ⟨by simp, rfl⟩ single
    · exact .digits h zero

/-- What the scanner takes is a fraction or nothing. -/
lemma scanFraction_eq_some (e : scanFraction s = some (fraction, rest)) :
    Fraction fraction ∧ s = fraction ++ rest := by
  unfold scanFraction at e
  split at e
  · simp only [Option.bind_eq_bind, Option.bind_eq_some_iff] at e
    obtain ⟨⟨digits, behind⟩, scanned, e⟩ := e
    cases e
    obtain ⟨h, rfl⟩ := scanDigits_eq_some scanned
    exact ⟨.some_ h, rfl⟩
  · cases e
    exact ⟨.none_, rfl⟩

/-- A sign that may be missing is split off the front. -/
lemma spanSign_append_eq (s : List Char) :
    ((spanSign s).1 = [] ∨ (spanSign s).1 = ['+'] ∨ (spanSign s).1 = ['-']) ∧
      (spanSign s).1 ++ (spanSign s).2 = s := by
  unfold spanSign
  split
  · split
    · rename_i signed
      rcases signed with rfl | rfl <;> simp
    · simp
  · simp

/-- What the scanner takes is a power of ten or nothing. -/
lemma scanExponent_eq_some (e : scanExponent s = some (exponent, rest)) :
    Exponent exponent ∧ s = exponent ++ rest := by
  unfold scanExponent at e
  split at e
  · rename_i c behind
    split at e
    · rename_i letter
      simp only [Option.bind_eq_bind, Option.bind_eq_some_iff] at e
      obtain ⟨⟨digits, later⟩, scanned, e⟩ := e
      cases e
      obtain ⟨h, parts⟩ := scanDigits_eq_some scanned
      obtain ⟨signed, whole⟩ := spanSign_append_eq behind
      refine ⟨.some_ letter signed h, ?_⟩
      rw [List.cons_append, List.append_assoc, ← parts, whole]
    · cases e
      exact ⟨.none_, rfl⟩
  · cases e
    exact ⟨.none_, rfl⟩

/-- What the scanner takes is the literal of a number. -/
lemma scanNumber_eq_some (e : scanNumber s = some (literal, rest)) :
    Literal literal ∧ s = literal ++ rest := by
  unfold scanNumber at e
  split at e
  rename_i sign behind signed
  have parts : (sign = [] ∨ sign = ['-']) ∧ s = sign ++ behind := by
    split at signed <;> cases signed <;> simp
  simp only [Option.bind_eq_bind, Option.bind_eq_some_iff] at e
  obtain ⟨⟨whole, _⟩, one, ⟨fraction, _⟩, two, ⟨exponent, _⟩, three, e⟩ := e
  cases e
  obtain ⟨h, rfl⟩ := scanWhole_eq_some one
  obtain ⟨frac, rfl⟩ := scanFraction_eq_some two
  obtain ⟨exp, rfl⟩ := scanExponent_eq_some three
  obtain ⟨sign_, rfl⟩ := parts
  exact ⟨.mk sign_ h frac exp, by simp⟩

end Literal

/-! ### Values -/

section blanks

variable {s blanks text rest : List Char} {mark : Char} {value : Json}

/-- The text of a value may begin with any number of blanks. -/
lemma Spells.behind (h : Spells value text) (all : ∀ b ∈ blanks, isBlank b = true) :
    Spells value (blanks ++ text) := by
  induction blanks with
  | nil => exact h
  | cons b blanks ih =>
    exact .blank (all b List.mem_cons_self) (ih fun c m => all c (List.mem_cons_of_mem _ m))

/-- A mark may stand behind any number of blanks. -/
lemma Mark.behind (h : Mark mark text) (all : ∀ b ∈ blanks, isBlank b = true) :
    Mark mark (blanks ++ text) := by
  induction blanks with
  | nil => exact h
  | cons b blanks ih =>
    exact .blank (all b List.mem_cons_self) (ih fun c m => all c (List.mem_cons_of_mem _ m))

/-- What is skipped are blanks. -/
lemma exists_blanks (s : List Char) :
    ∃ blanks, s = blanks ++ skipBlanks s ∧ ∀ b ∈ blanks, isBlank b = true :=
  ⟨s.takeWhile isBlank, List.takeWhile_append_dropWhile.symm, fun _ => List.mem_takeWhile_imp⟩

/-- A character that is found behind blanks is a mark. -/
lemma exists_mark (e : skipBlanks s = mark :: rest) :
    ∃ front, s = front ++ rest ∧ Mark mark front := by
  obtain ⟨blanks, whole, all⟩ := exists_blanks s
  refine ⟨blanks ++ [mark], ?_, Mark.here.behind all⟩
  rw [whole, e, List.append_assoc]
  rfl

end blanks

/-- What was taken off the front of a text is of some part of the grammar. -/
def Took (spells : List Char → Prop) (s rest : List Char) : Prop :=
  ∃ text, s = text ++ rest ∧ spells text

section parse

variable {fuel : Nat} {s rest : List Char}

/-- What the parser takes is a text of the value, if that is so of elements and members with less
fuel. -/
lemma parseValue_step
    (elements_ : ∀ {s elements rest}, parseElements fuel s = some (elements, rest) →
      Took (SpellsElements elements) s rest)
    (members_ : ∀ {s members rest}, parseMembers fuel s = some (members, rest) →
      Took (SpellsMembers members) s rest)
    {value : Json} (e : parseValue (fuel + 1) s = some (value, rest)) :
    Took (Spells value) s rest := by
  suffices core : Took (Spells value) (skipBlanks s) rest by
    obtain ⟨blanks, whole, all⟩ := exists_blanks s
    obtain ⟨text, parts, spells⟩ := core
    exact ⟨blanks ++ text, by rw [List.append_assoc, ← parts, ← whole], spells.behind all⟩
  unfold parseValue at e
  split at e
  · rename_i token
    cases e
    exact ⟨_, token, .null⟩
  · rename_i token
    cases e
    exact ⟨_, token, .true_⟩
  · rename_i token
    cases e
    exact ⟨_, token, .false_⟩
  · rename_i token
    simp only [Option.bind_eq_bind, Option.bind_eq_some_iff] at e
    obtain ⟨⟨raw, _⟩, scanned, e⟩ := e
    cases e
    obtain ⟨h, rfl⟩ := scanString_eq_some scanned
    exact ⟨_, by rw [token]; simp, .string h⟩
  · rename_i behind token
    rw [token]
    split at e
    · rename_i close
      cases e
      obtain ⟨front, rfl, h⟩ := exists_mark close
      exact ⟨_, rfl, .emptyArray h⟩
    · simp only [Option.bind_eq_bind, Option.bind_eq_some_iff] at e
      obtain ⟨⟨elements, _⟩, parsed, e⟩ := e
      cases e
      rw [parseElements_skipBlanks] at parsed
      obtain ⟨text, rfl, h⟩ := elements_ parsed
      exact ⟨_, rfl, .array h⟩
  · rename_i behind token
    rw [token]
    split at e
    · rename_i close
      cases e
      obtain ⟨front, rfl, h⟩ := exists_mark close
      exact ⟨_, rfl, .emptyObject h⟩
    · simp only [Option.bind_eq_bind, Option.bind_eq_some_iff] at e
      obtain ⟨⟨members, _⟩, parsed, e⟩ := e
      cases e
      rw [parseMembers_skipBlanks] at parsed
      obtain ⟨text, rfl, h⟩ := members_ parsed
      exact ⟨_, rfl, .object h⟩
  · simp only [Option.bind_eq_bind, Option.bind_eq_some_iff] at e
    obtain ⟨⟨literal, _⟩, scanned, e⟩ := e
    cases e
    obtain ⟨h, parts⟩ := scanNumber_eq_some scanned
    exact ⟨_, parts, .number h⟩

/-- What the parser takes is a text of the elements, if that is so of each with less fuel. -/
lemma parseElements_step
    (value_ : ∀ {s value rest}, parseValue fuel s = some (value, rest) →
      Took (Spells value) s rest)
    (elements_ : ∀ {s elements rest}, parseElements fuel s = some (elements, rest) →
      Took (SpellsElements elements) s rest)
    {elements : List Json} (e : parseElements (fuel + 1) s = some (elements, rest)) :
    Took (SpellsElements elements) s rest := by
  unfold parseElements at e
  simp only [Option.bind_eq_bind, Option.bind_eq_some_iff] at e
  obtain ⟨⟨element, behind⟩, one, e⟩ := e
  obtain ⟨text, rfl, spells⟩ := value_ one
  simp only at e
  split at e
  · rename_i comma
    simp only [Option.bind_eq_some_iff] at e
    obtain ⟨⟨others, _⟩, parsed, e⟩ := e
    cases e
    obtain ⟨mark, rfl, h⟩ := exists_mark comma
    obtain ⟨later, rfl, h'⟩ := elements_ parsed
    exact ⟨_, by simp, .next spells h h'⟩
  · rename_i close
    cases e
    obtain ⟨mark, rfl, h⟩ := exists_mark close
    exact ⟨_, by simp, .last spells h⟩
  · cases e

/-- What the parser takes is a text of the members, if that is so of each with less fuel. -/
lemma parseMembers_step
    (value_ : ∀ {s value rest}, parseValue fuel s = some (value, rest) →
      Took (Spells value) s rest)
    (members_ : ∀ {s members rest}, parseMembers fuel s = some (members, rest) →
      Took (SpellsMembers members) s rest)
    {members : List (List Char × Json)} (e : parseMembers (fuel + 1) s = some (members, rest)) :
    Took (SpellsMembers members) s rest := by
  unfold parseMembers at e
  split at e
  · rename_i begun
    obtain ⟨opening, rfl, quote⟩ := exists_mark begun
    simp only [Option.bind_eq_bind, Option.bind_eq_some_iff] at e
    obtain ⟨⟨name, behind⟩, scanned, e⟩ := e
    obtain ⟨raw, rfl⟩ := scanString_eq_some scanned
    simp only at e
    split at e
    · rename_i divided
      obtain ⟨front, rfl, colon⟩ := exists_mark divided
      simp only [Option.bind_eq_some_iff] at e
      obtain ⟨⟨value, _⟩, one, e⟩ := e
      obtain ⟨text, rfl, spells⟩ := value_ one
      have named := Name.mk quote raw colon
      simp only at e
      split at e
      · rename_i comma
        simp only [Option.bind_eq_some_iff] at e
        obtain ⟨⟨others, _⟩, parsed, e⟩ := e
        cases e
        obtain ⟨mark, rfl, h⟩ := exists_mark comma
        obtain ⟨later, rfl, h'⟩ := members_ parsed
        exact ⟨_, by simp, .next named spells h h'⟩
      · rename_i close
        cases e
        obtain ⟨mark, rfl, h⟩ := exists_mark close
        exact ⟨_, by simp, .last named spells h⟩
      · cases e
    · cases e
  · cases e

/-- What is parsed is spelled by the front of the text that is taken. -/
lemma parse_took (fuel : Nat) :
    (∀ {s value rest}, parseValue fuel s = some (value, rest) → Took (Spells value) s rest) ∧
      (∀ {s elements rest}, parseElements fuel s = some (elements, rest) →
        Took (SpellsElements elements) s rest) ∧
      ∀ {s members rest}, parseMembers fuel s = some (members, rest) →
        Took (SpellsMembers members) s rest := by
  induction fuel with
  | zero => exact ⟨nofun, nofun, nofun⟩
  | succ fuel ih =>
    obtain ⟨value_, elements_, members_⟩ := ih
    exact ⟨parseValue_step elements_ members_, parseElements_step value_ elements_,
      parseMembers_step value_ members_⟩

end parse

/-- The parser accepts the texts that spell a value, and no others. -/
theorem parse?_eq_some_iff {text : String} {value : Json} :
    parse? text = some value ↔ Spelled value text := by
  refine ⟨fun e => ?_, parse?_of_spelled⟩
  unfold parse? at e
  simp only at e
  split at e
  · rename_i parsed
    split at e
    · rename_i nothing
      cases e
      obtain ⟨front, whole, spells⟩ := (parse_took _).1 parsed
      exact ⟨front, _, whole, spells, List.dropWhile_eq_nil_iff.1 nothing⟩
    · cases e
  · cases e

end StoreClient.Json
