import Mathlib
import StoreClient.Json

/-!
# The texts of values

The grammar of JSON, apart from the parser: which strings, numbers and values a text may spell
(`Spells`), with blanks wherever they may stand. The parser finds the value of each such text
(`parse?_of_spelled`). It has to be shown that every scanner stops where its part of the text ends,
so that each law is one of a text with something behind it.

What is rendered is such a text, if the parts are (`spells_array`, `spells_object`). Strings are
written with escapes that give the same text back, and numbers with digits that give the same
number.
-/

namespace StoreClient.Json

/-! ### Strings -/

/-- The letters that may stand behind a backslash, besides the one for four digits. -/
def letters : List Char := ['"', '\\', '/', 'b', 'f', 'n', 'r', 't']

/-- A hexadecimal digit. -/
def IsHex (c : Char) : Prop :=
  '0' ≤ c ∧ c ≤ '9' ∨ 'a' ≤ c ∧ c ≤ 'f' ∨ 'A' ≤ c ∧ c ≤ 'F'

instance : DecidablePred IsHex := fun c =>
  inferInstanceAs
    (Decidable ('0' ≤ c ∧ c ≤ '9' ∨ 'a' ≤ c ∧ c ≤ 'f' ∨ 'A' ≤ c ∧ c ≤ 'F'))

/-- The characters of a string as they are written between its quotes. -/
inductive Raw : List Char → Prop where
  | nil : Raw []
  | plain {c : Char} {raw : List Char} :
    c ≠ '"' → c ≠ '\\' → 0x20 ≤ c.toNat →
    Raw raw →
    Raw (c :: raw)
  | escape {c : Char} {raw : List Char} :
    c ∈ letters →
    Raw raw →
    Raw ('\\' :: c :: raw)
  | unicode {a b c d : Char} {raw : List Char} :
    (∀ digit ∈ [a, b, c, d], IsHex digit) →
    Raw raw →
    Raw ('\\' :: 'u' :: a :: b :: c :: d :: raw)

section Raw

variable {raw rest : List Char}

/-- Every hexadecimal digit is read. -/
lemma exists_hexDigit? {c : Char} (h : IsHex c) : ∃ n, hexDigit? c = some n := by
  unfold hexDigit?
  split
  · exact ⟨_, rfl⟩
  · rename_i decimal
    split
    · exact ⟨_, rfl⟩
    · rename_i lower
      rw [if_pos ((h.resolve_left decimal).resolve_left lower)]
      exact ⟨_, rfl⟩

/-- The scanner takes a string up to its closing quote. -/
lemma scanString_raw (h : Raw raw) : scanString (raw ++ '"' :: rest) = some (raw, rest) := by
  induction h with
  | nil => rfl
  | @plain c raw quote backslash printed h ih =>
    have printed : ¬ c.toNat < 0x20 := Nat.not_lt.2 printed
    simp [scanString, backslash, printed, ih]
  | @escape c raw letter h ih =>
    have known : ∃ e, escapeOf? c = some e := by
      fin_cases letter <;> exact ⟨_, rfl⟩
    obtain ⟨e, known⟩ := known
    have other : c ≠ 'u' := by
      rintro rfl
      cases known
    simp [scanString, other, known, ih]
  | @unicode a b c d raw digits h ih =>
    obtain ⟨_, one⟩ := exists_hexDigit? (digits a (by simp))
    obtain ⟨_, two⟩ := exists_hexDigit? (digits b (by simp))
    obtain ⟨_, three⟩ := exists_hexDigit? (digits c (by simp))
    obtain ⟨_, four⟩ := exists_hexDigit? (digits d (by simp))
    simp [scanString, hexUnit?, one, two, three, four, ih]

/-- A hexadecimal digit is read as the number that it was written for. -/
lemma hexDigit?_hexDigit : ∀ n < 16, hexDigit? (hexDigit n) = some n := by decide

/-- The forms in which a character is written in a string. -/
inductive Escaped (c : Char) : List Char → Prop where
  | itself :
    c ≠ '"' → c ≠ '\\' → 0x20 ≤ c.toNat →
    Escaped c [c]
  | letter {l : Char} :
    l ∈ letters → escapeOf? l = some c →
    Escaped c ['\\', l]
  | digits :
    c.toNat < 0x20 →
    Escaped c ['\\', 'u', '0', '0', hexDigit (c.toNat / 16), hexDigit (c.toNat % 16)]

/-- A character is written in one of its forms. -/
lemma escaped_escapeChar (c : Char) : Escaped c (escapeChar c) := by
  unfold escapeChar
  split_ifs with quote backslash _ _ _ _ _ control
  iterate 7
    · subst c
      exact .letter (by decide) rfl
  · exact .digits control
  · exact .itself quote backslash (Nat.not_lt.1 control)

/-- What is written for a number below sixteen is a hexadecimal digit. -/
lemma isHex_hexDigit : ∀ n < 16, IsHex (hexDigit n) := by decide

/-- A form of a character may stand before the others of a string. -/
lemma Raw.escaped {c : Char} {form : List Char} (e : Escaped c form) (h : Raw raw) :
    Raw (form ++ raw) := by
  cases e with
  | itself quote backslash printed => exact .plain quote backslash printed h
  | letter known _ => exact .escape known h
  | digits control =>
    refine .unicode ?_ h
    have high := isHex_hexDigit (c.toNat / 16) (by omega)
    have low := isHex_hexDigit (c.toNat % 16) (by omega)
    simpa [high, low] using (by decide : IsHex '0')

/-- A text as it is written in a string. -/
lemma raw_escape (s : List Char) : Raw (s.flatMap escapeChar) := by
  induction s with
  | nil => exact .nil
  | cons c s ih => exact ih.escaped (escaped_escapeChar c)

/-- A form is read as the character that it was written for. -/
lemma unescape?_escaped {c : Char} {form : List Char} (e : Escaped c form) (raw : List Char) :
    unescape? (form ++ raw) = (unescape? raw).map (c :: ·) := by
  rw [Option.map_eq_bind]
  cases e with
  | itself quote backslash printed =>
    simp [unescape?, backslash]
  | @letter l known e =>
    have other : l ≠ 'u' := by
      rintro rfl
      cases e
    simp [unescape?, e, other]
  | digits control =>
    have high := hexDigit?_hexDigit (c.toNat / 16) (by omega)
    have low := hexDigit?_hexDigit (c.toNat % 16) (by omega)
    have unit : hexUnit? '0' '0' (hexDigit (c.toNat / 16)) (hexDigit (c.toNat % 16)) =
        some c.toNat := by
      unfold hexUnit?
      rw [high, low]
      exact congrArg some (by omega)
    have low : ¬ 0xD800 ≤ c.toNat := by omega
    have high : ¬ 0xDC00 ≤ c.toNat := by omega
    simp [unescape?, unit, low, high]

/-- A string is read as the characters that it was written for. -/
lemma unescape?_escape (s : List Char) : unescape? (s.flatMap escapeChar) = some s := by
  induction s with
  | nil => rfl
  | cons c s ih =>
    rw [List.flatMap_cons, unescape?_escaped (escaped_escapeChar c), ih, Option.map_some]

end Raw

/-- A text is read back from the string that stands for it. -/
@[simp] lemma text?_ofText (s : String) : (ofText s).text? = some s := by
  show (unescape? (s.toList.flatMap escapeChar)).map String.ofList = some s
  rw [unescape?_escape, Option.map_some, String.ofList_toList]

/-! ### Numbers -/

/-- A run of digits. -/
def Digits (digits : List Char) : Prop := digits ≠ [] ∧ ∀ d ∈ digits, d.isDigit = true

/-- The whole part of a number. -/
inductive Whole : List Char → Prop where
  | zero : Whole ['0']
  | digits {digits : List Char} : Digits digits → digits.head? ≠ some '0' → Whole digits

/-- A point with digits behind it, if there is one. -/
inductive Fraction : List Char → Prop where
  | none_ : Fraction []
  | some_ {digits : List Char} : Digits digits → Fraction ('.' :: digits)

/-- A power of ten, if there is one. -/
inductive Exponent : List Char → Prop where
  | none_ : Exponent []
  | some_ {e : Char} {sign digits : List Char} :
    e = 'e' ∨ e = 'E' →
    sign = [] ∨ sign = ['+'] ∨ sign = ['-'] →
    Digits digits →
    Exponent (e :: (sign ++ digits))

/-- The literal of a number. -/
inductive Literal : List Char → Prop where
  | mk {sign whole fraction exponent : List Char} :
    sign = [] ∨ sign = ['-'] →
    Whole whole →
    Fraction fraction →
    Exponent exponent →
    Literal (sign ++ whole ++ fraction ++ exponent)

/-- What stands behind a value begins with a character that ends it, if there is anything. -/
def Delimited (rest : List Char) : Prop :=
  ∀ c, rest.head? = some c → isBlank c = true ∨ c = ',' ∨ c = ']' ∨ c = '}'

section Literal

variable {digits whole fraction exponent literal rest : List Char}

/-- What may follow the digits of a number does not go on with them. -/
lemma Delimited.apart (h : Delimited rest) {c : Char} (next : rest.head? = some c) :
    c.isDigit = false ∧ c ≠ '.' ∧ c ≠ 'e' ∧ c ≠ 'E' := by
  have ends := h c next
  simp only [isBlank, Bool.or_eq_true, beq_iff_eq, or_assoc] at ends
  rcases ends with rfl | rfl | rfl | rfl | rfl | rfl | rfl <;> decide

/-- A run of digits begins with one. -/
lemma Digits.exists_cons (h : Digits digits) :
    ∃ d later, digits = d :: later ∧ d.isDigit = true := by
  obtain ⟨some_, all⟩ := h
  cases digits with
  | nil => exact absurd rfl some_
  | cons d digits => exact ⟨d, digits, rfl, all d List.mem_cons_self⟩

/-- The whole part of a number is a run of digits. -/
lemma Whole.digits_ (h : Whole whole) : Digits whole := by
  cases h with
  | zero => exact ⟨by simp, by simp⟩
  | digits h _ => exact h

/-- A run of digits is taken where no digit follows. -/
lemma scanDigits_append (h : Digits digits)
    (last : ∀ c, rest.head? = some c → c.isDigit = false) :
    scanDigits (digits ++ rest) = some (digits, rest) := by
  have span : spanDigits (digits ++ rest) = (digits, rest) := by
    unfold spanDigits
    rw [List.span_eq_takeWhile_dropWhile, List.takeWhile_append_of_pos h.2,
      List.dropWhile_append_of_pos h.2]
    cases rest with
    | nil => simp
    | cons c rest => simp [last c rfl]
  obtain ⟨d, later, rfl, _⟩ := h.exists_cons
  unfold scanDigits
  rw [span]

/-- The whole part of a number is taken where no digit follows. -/
lemma scanWhole_append (h : Whole whole) (last : ∀ c, rest.head? = some c → c.isDigit = false) :
    scanWhole (whole ++ rest) = some (whole, rest) := by
  unfold scanWhole
  cases h with
  | zero =>
    rw [scanDigits_append ⟨by simp, by simp⟩ last]
    rfl
  | digits h first =>
    rw [scanDigits_append h last]
    simp [first]

/-- A fraction is taken where neither a digit nor a point follows. -/
lemma scanFraction_append (h : Fraction fraction)
    (last : ∀ c, rest.head? = some c → c.isDigit = false ∧ c ≠ '.') :
    scanFraction (fraction ++ rest) = some (fraction, rest) := by
  cases h with
  | none_ =>
    cases rest with
    | nil => rfl
    | cons c rest => simp [scanFraction, (last c rfl).2]
  | some_ h =>
    rw [List.cons_append, scanFraction, scanDigits_append h fun c next => (last c next).1]
    rfl

/-- A sign is split off the digits behind it. -/
lemma spanSign_append {sign : List Char} (h : sign = [] ∨ sign = ['+'] ∨ sign = ['-'])
    (digits_ : Digits digits) :
    spanSign (sign ++ (digits ++ rest)) = (sign, digits ++ rest) := by
  rcases h with rfl | rfl | rfl
  · obtain ⟨d, later, rfl, digit⟩ := digits_.exists_cons
    have unsigned : ¬ (d = '+' ∨ d = '-') := by
      rintro (rfl | rfl) <;> cases digit
    simp [spanSign, unsigned]
  · rfl
  · rfl

/-- A power of ten is taken where the value ends. -/
lemma scanExponent_append (h : Exponent exponent) (ends : Delimited rest) :
    scanExponent (exponent ++ rest) = some (exponent, rest) := by
  cases h with
  | none_ =>
    cases rest with
    | nil => rfl
    | cons c rest =>
      have apart := ends.apart rfl
      simp [scanExponent, apart]
  | some_ letter sign h =>
    rw [List.cons_append, scanExponent, if_pos letter, List.append_assoc, spanSign_append sign h]
    simp only [bind, Option.bind, scanDigits_append h fun c next => (ends.apart next).1]
    rfl

/-- What stands behind a fraction does not go on with it. -/
lemma Exponent.apart (h : Exponent exponent) (ends : Delimited rest) {c : Char}
    (next : (exponent ++ rest).head? = some c) : c.isDigit = false ∧ c ≠ '.' := by
  cases h with
  | none_ => exact (ends.apart next).imp_right (·.1)
  | some_ letter _ _ =>
    cases next
    rcases letter with rfl | rfl <;> decide

/-- What stands behind the whole part of a number does not go on with it. -/
lemma Fraction.apart (h : Fraction fraction) (exp : Exponent exponent) (ends : Delimited rest)
    {c : Char} (next : (fraction ++ (exponent ++ rest)).head? = some c) : c.isDigit = false := by
  cases h with
  | none_ => exact (exp.apart ends next).1
  | some_ _ =>
    cases next
    rfl

/-- The scanner takes the literal of a number where a character follows that ends it. -/
lemma scanNumber_append (h : Literal literal) (ends : Delimited rest) :
    scanNumber (literal ++ rest) = some (literal, rest) := by
  obtain @⟨sign, whole, fraction, exponent, signed, h, frac, exp⟩ := h
  have one := scanWhole_append h fun c => frac.apart exp ends
  have two := scanFraction_append frac fun c => exp.apart ends
  have three := scanExponent_append exp ends
  simp only [List.append_assoc]
  unfold scanNumber
  rcases signed with rfl | rfl
  · obtain ⟨d, later, rfl, digit⟩ := h.digits_.exists_cons
    have unsigned : d ≠ '-' := by
      rintro rfl
      cases digit
    rw [List.cons_append] at one
    simp [unsigned, one, two, three]
  · simp [one, two, three]

end Literal

/-- The decimal digits of a number do not begin with a zero, unless it is zero. -/
lemma head?_toDigits {n : Nat} (positive : 0 < n) : (Nat.toDigits 10 n).head? ≠ some '0' := by
  induction n using Nat.strong_induction_on with
  | h n ih =>
    by_cases one : n < 10
    · rw [Nat.toDigits_of_lt_base one]
      interval_cases n <;> decide
    · rw [Nat.toDigits_of_base_le (by decide) (by omega),
        List.head?_append_of_ne_nil _ Nat.toDigits_ne_nil]
      exact ih (n / 10) (by omega) (by omega)

/-- A natural number is written as a run of digits. -/
lemma digits_toDigits (n : Nat) : Digits (Nat.toDigits 10 n) :=
  ⟨Nat.toDigits_ne_nil, fun _ m => Nat.isDigit_of_mem_toDigits (by decide) (by decide) m⟩

/-- A natural number is written as a literal. -/
lemma literal_toDigits (n : Nat) : Literal (Nat.toDigits 10 n) := by
  have whole : Whole (Nat.toDigits 10 n) := by
    by_cases zero : n = 0
    · subst zero
      exact .zero
    · exact .digits (digits_toDigits n) (head?_toDigits (Nat.pos_of_ne_zero zero))
  simpa using Literal.mk (.inl rfl) whole .none_ .none_

/-- A number is read back from its digits. -/
@[simp] lemma nat?_ofNat (n : Nat) : (ofNat n).nat? = some n := by
  have all : (Nat.toDigits 10 n).all Char.isDigit = true :=
    List.all_eq_true.2 (digits_toDigits n).2
  exact (if_pos all).trans (congrArg some (Nat.ofDigitChars_toDigits (by decide) (by decide)))

/-! ### Values -/

/-- A character behind blanks, if there are any. -/
inductive Mark (mark : Char) : List Char → Prop where
  | here : Mark mark [mark]
  | blank {b : Char} {text : List Char} :
    isBlank b = true →
    Mark mark text →
    Mark mark (b :: text)

/-- The name of a member in its quotes, and the colon behind it. -/
inductive Name (name : List Char) : List Char → Prop where
  | mk {quote colon : List Char} :
    Mark '"' quote →
    Raw name →
    Mark ':' colon →
    Name name (quote ++ (name ++ '"' :: colon))

mutual

/-- The texts of a value, which may begin with blanks. -/
inductive Spells : Json → List Char → Prop where
  | blank {b : Char} {value : Json} {text : List Char} :
    isBlank b = true →
    Spells value text →
    Spells value (b :: text)
  | null : Spells null ['n', 'u', 'l', 'l']
  | true_ : Spells (bool true) ['t', 'r', 'u', 'e']
  | false_ : Spells (bool false) ['f', 'a', 'l', 's', 'e']
  | number {literal : List Char} : Literal literal → Spells (number literal) literal
  | string {raw : List Char} : Raw raw → Spells (string raw) ('"' :: (raw ++ ['"']))
  | emptyArray {close : List Char} : Mark ']' close → Spells (array []) ('[' :: close)
  | array {elements : List Json} {text : List Char} :
    SpellsElements elements text →
    Spells (array elements) ('[' :: text)
  | emptyObject {close : List Char} : Mark '}' close → Spells (object []) ('{' :: close)
  | object {members : List (List Char × Json)} {text : List Char} :
    SpellsMembers members text →
    Spells (object members) ('{' :: text)

/-- The texts of the elements of an array, up to the bracket behind them. -/
inductive SpellsElements : List Json → List Char → Prop where
  | last {element : Json} {text close : List Char} :
    Spells element text →
    Mark ']' close →
    SpellsElements [element] (text ++ close)
  | next {element : Json} {elements : List Json} {text comma later : List Char} :
    Spells element text →
    Mark ',' comma →
    SpellsElements elements later →
    SpellsElements (element :: elements) (text ++ (comma ++ later))

/-- The texts of the members of an object, up to the brace behind them. -/
inductive SpellsMembers : List (List Char × Json) → List Char → Prop where
  | last {name : List Char} {value : Json} {front text close : List Char} :
    Name name front →
    Spells value text →
    Mark '}' close →
    SpellsMembers [(name, value)] (front ++ (text ++ close))
  | next {name : List Char} {value : Json} {members : List (List Char × Json)}
      {front text comma later : List Char} :
    Name name front →
    Spells value text →
    Mark ',' comma →
    SpellsMembers members later →
    SpellsMembers ((name, value) :: members) (front ++ (text ++ (comma ++ later)))

end

section parse

variable {fuel : Nat} {value : Json} {text rest : List Char} {mark b : Char}

/-- A blank is skipped. -/
lemma skipBlanks_cons (blank : isBlank b = true) (s : List Char) :
    skipBlanks (b :: s) = skipBlanks s := by
  unfold skipBlanks
  rw [List.dropWhile_cons_of_pos blank]

/-- What is no blank is not skipped. -/
lemma skipBlanks_of_not {c : Char} (other : isBlank c = false) (s : List Char) :
    skipBlanks (c :: s) = c :: s := by
  unfold skipBlanks
  rw [List.dropWhile_cons_of_neg (by simp [other])]

/-- A mark is found behind its blanks. -/
lemma Mark.skipBlanks (h : Mark mark text) (other : isBlank mark = false) :
    skipBlanks (text ++ rest) = mark :: rest := by
  induction h with
  | here => exact skipBlanks_of_not other rest
  | blank blank _ ih => exact (skipBlanks_cons blank _).trans ih

/-- A value ends before a mark that ends it. -/
lemma Mark.delimited (h : Mark mark text) (ends : mark = ',' ∨ mark = ']' ∨ mark = '}') :
    Delimited (text ++ rest) := by
  intro c next
  cases h with
  | here =>
    cases next
    exact .inr ends
  | blank blank _ =>
    cases next
    exact .inl blank

/-- A blank before a value makes no difference. -/
lemma parseValue_blank (blank : isBlank b = true) (s : List Char) :
    parseValue fuel (b :: s) = parseValue fuel s := by
  cases fuel with
  | zero => rfl
  | succ fuel =>
    unfold parseValue
    rw [skipBlanks_cons blank]

/-- The blanks before a value make no difference. -/
lemma parseValue_skipBlanks (s : List Char) :
    parseValue fuel (skipBlanks s) = parseValue fuel s := by
  induction s with
  | nil => rfl
  | cons c s ih =>
    cases blank : isBlank c with
    | true => rw [skipBlanks_cons blank, parseValue_blank blank, ih]
    | false => rw [skipBlanks_of_not blank]

/-- No blank is left where blanks were skipped. -/
lemma skipBlanks_skipBlanks (s : List Char) : skipBlanks (skipBlanks s) = skipBlanks s :=
  List.dropWhile_idempotent isBlank s

/-- A literal begins with a sign or a digit. -/
lemma Literal.exists_cons {literal : List Char} (h : Literal literal) :
    ∃ c later, literal = c :: later ∧ (c = '-' ∨ c.isDigit = true) := by
  obtain ⟨sign, whole, _, _⟩ := h
  rcases sign with rfl | rfl
  · obtain ⟨d, later, rfl, digit⟩ := whole.digits_.exists_cons
    exact ⟨d, _, rfl, .inr digit⟩
  · exact ⟨'-', _, rfl, .inl rfl⟩

/-- A literal is parsed as a number where the value ends. -/
lemma parseValue_number {literal : List Char} (h : Literal literal) (ends : Delimited rest) :
    parseValue (fuel + 1) (literal ++ rest) = some (number literal, rest) := by
  have scanned := scanNumber_append h ends
  obtain ⟨c, later, rfl, first⟩ := h.exists_cons
  have other : isBlank c = false := by
    by_contra blank
    simp only [isBlank, Bool.or_eq_true, beq_iff_eq, Bool.not_eq_false, or_assoc] at blank
    rcases blank with rfl | rfl | rfl | rfl <;> exact absurd first (by decide)
  rw [List.cons_append] at scanned ⊢
  unfold parseValue
  rw [skipBlanks_of_not other]
  split
  iterate 6
    · rename_i e
      injection e with e
      subst e
      exact absurd first (by decide)
  · rw [scanned]
    rfl

/-- A string is parsed up to its closing quote. -/
lemma parseValue_string {raw : List Char} (h : Raw raw) :
    parseValue (fuel + 1) ('"' :: (raw ++ '"' :: rest)) = some (string raw, rest) := by
  unfold parseValue
  rw [skipBlanks_of_not (by decide)]
  simp only [scanString_raw h, bind, Option.bind, pure]

/-- No element begins with the bracket that closes an array. -/
lemma parseElements_close (s : List Char) : parseElements fuel (']' :: s) = none := by
  cases fuel with
  | zero => rfl
  | succ fuel =>
    unfold parseElements
    have refused : parseValue fuel (']' :: s) = none := by
      cases fuel with
      | zero => rfl
      | succ fuel => rfl
    rw [refused]
    rfl

/-- A brace begins no member. -/
lemma parseMembers_close (s : List Char) : parseMembers fuel ('}' :: s) = none := by
  cases fuel with
  | zero => rfl
  | succ fuel => rfl

/-- The blanks in front of an element do not matter. -/
lemma parseElements_skipBlanks (s : List Char) :
    parseElements fuel (skipBlanks s) = parseElements fuel s := by
  cases fuel with
  | zero => rfl
  | succ fuel =>
    unfold parseElements
    rw [parseValue_skipBlanks]

/-- The blanks before members make no difference. -/
lemma parseMembers_skipBlanks (s : List Char) :
    parseMembers fuel (skipBlanks s) = parseMembers fuel s := by
  cases fuel with
  | zero => rfl
  | succ fuel =>
    unfold parseMembers
    rw [skipBlanks_skipBlanks]

/-- A bracket and elements behind it are parsed as an array. -/
lemma parseValue_array {elements : List Json}
    (h : parseElements fuel text = some (elements, rest)) :
    parseValue (fuel + 1) ('[' :: text) = some (array elements, rest) := by
  rw [← parseElements_skipBlanks] at h
  unfold parseValue
  rw [skipBlanks_of_not (by decide)]
  simp only
  split
  · rename_i e
    rw [e, parseElements_close] at h
    cases h
  · rw [h]
    rfl

/-- A brace and members behind it are parsed as an object. -/
lemma parseValue_object {members : List (List Char × Json)}
    (h : parseMembers fuel text = some (members, rest)) :
    parseValue (fuel + 1) ('{' :: text) = some (object members, rest) := by
  rw [← parseMembers_skipBlanks] at h
  unfold parseValue
  rw [skipBlanks_of_not (by decide)]
  simp only
  split
  · rename_i e
    rw [e, parseMembers_close] at h
    cases h
  · rw [h]
    rfl

/-- An element and a bracket behind it are all elements. -/
lemma parseElements_last {element : Json} {s behind : List Char}
    (one : parseValue fuel s = some (element, behind)) (close : skipBlanks behind = ']' :: rest) :
    parseElements (fuel + 1) s = some ([element], rest) := by
  unfold parseElements
  simp only [one, close, bind, Option.bind]

/-- An element and a comma behind it come before the other elements. -/
lemma parseElements_next {element : Json} {elements : List Json} {s behind later : List Char}
    (one : parseValue fuel s = some (element, behind)) (comma : skipBlanks behind = ',' :: later)
    (others : parseElements fuel later = some (elements, rest)) :
    parseElements (fuel + 1) s = some (element :: elements, rest) := by
  unfold parseElements
  simp only [one, comma, others, bind, Option.bind, pure]

variable {name front : List Char} {members : List (List Char × Json)} {s behind later : List Char}

/-- Behind the name of a member comes its value. -/
lemma parseMembers_name (h : Name name front) (s : List Char) :
    ∃ colon, skipBlanks (front ++ s) = '"' :: (name ++ '"' :: (colon ++ s)) ∧
      scanString (name ++ '"' :: (colon ++ s)) = some (name, colon ++ s) ∧
      skipBlanks (colon ++ s) = ':' :: s := by
  obtain @⟨quote, colon, opening, raw, behind⟩ := h
  refine ⟨colon, ?_, scanString_raw raw, behind.skipBlanks (by decide)⟩
  rw [List.append_assoc, opening.skipBlanks (by decide), List.append_assoc, List.cons_append]

/-- A member and a brace behind it are all members. -/
lemma parseMembers_last (h : Name name front) (one : parseValue fuel s = some (value, behind))
    (close : skipBlanks behind = '}' :: rest) :
    parseMembers (fuel + 1) (front ++ s) = some ([(name, value)], rest) := by
  obtain ⟨colon, quote, raw, before⟩ := parseMembers_name h s
  unfold parseMembers
  simp only [quote, raw, before, one, close, bind, Option.bind]

/-- A member and a comma behind it come before the other members. -/
lemma parseMembers_next (h : Name name front) (one : parseValue fuel s = some (value, behind))
    (comma : skipBlanks behind = ',' :: later)
    (others : parseMembers fuel later = some (members, rest)) :
    parseMembers (fuel + 1) (front ++ s) = some ((name, value) :: members, rest) := by
  obtain ⟨colon, quote, raw, before⟩ := parseMembers_name h s
  unfold parseMembers
  simp only [quote, raw, before, one, comma, others, bind, Option.bind, pure]

end parse

/-! ### Texts -/

/-- A mark is not empty. -/
lemma Mark.length_pos {mark : Char} {text : List Char} (h : Mark mark text) : 0 < text.length := by
  cases h <;> exact Nat.zero_lt_succ _

mutual

/-- A text of a value is parsed where a character follows that ends it. -/
lemma parseValue_append : ∀ {value : Json} {text : List Char}, Spells value text →
    ∀ {fuel : Nat} {rest : List Char}, 2 * text.length ≤ fuel → Delimited rest →
      parseValue fuel (text ++ rest) = some (value, rest)
  | _, _, .blank blank h, fuel, rest, enough, ends => by
    rw [List.length_cons] at enough
    rw [List.cons_append, parseValue_blank blank]
    exact parseValue_append h (by omega) ends
  | _, _, .null, fuel + 1, rest, _, _ => rfl
  | _, _, .true_, fuel + 1, rest, _, _ => rfl
  | _, _, .false_, fuel + 1, rest, _, _ => rfl
  | _, _, .number h, 0, rest, enough, ends => by
    obtain ⟨_, _, rfl, _⟩ := h.exists_cons
    exact absurd enough (by simp)
  | _, _, .number h, fuel + 1, rest, _, ends => parseValue_number h ends
  | _, _, .string h, fuel + 1, rest, _, _ => by
    rw [List.cons_append, List.append_assoc]
    exact parseValue_string h
  | _, _, .emptyArray close, fuel + 1, rest, _, _ => by
    unfold parseValue
    rw [List.cons_append, skipBlanks_of_not (by decide)]
    simp only [close.skipBlanks (by decide)]
  | _, _, .array h, fuel + 1, rest, enough, _ => by
    rw [List.length_cons] at enough
    exact parseValue_array (parseElements_append h (by omega))
  | _, _, .emptyObject close, fuel + 1, rest, _, _ => by
    unfold parseValue
    rw [List.cons_append, skipBlanks_of_not (by decide)]
    simp only [close.skipBlanks (by decide)]
  | _, _, .object h, fuel + 1, rest, enough, _ => by
    rw [List.length_cons] at enough
    exact parseValue_object (parseMembers_append h (by omega))

/-- The elements of an array are parsed with the bracket behind them. -/
lemma parseElements_append : ∀ {elements : List Json} {text : List Char},
    SpellsElements elements text →
    ∀ {fuel : Nat} {rest : List Char}, 2 * text.length ≤ fuel + 1 →
      parseElements fuel (text ++ rest) = some (elements, rest)
  | _, _, .last one close, fuel, rest, enough => by
    have some_ := close.length_pos
    rw [List.length_append] at enough
    obtain ⟨fuel, rfl⟩ : ∃ n, fuel = n + 1 := Nat.exists_eq_add_one_of_ne_zero (by omega)
    rw [List.append_assoc]
    exact parseElements_last (parseValue_append one (by omega) (close.delimited (by simp)))
      (close.skipBlanks (by decide))
  | _, _, .next one comma others, fuel, rest, enough => by
    have some_ := comma.length_pos
    rw [List.length_append, List.length_append] at enough
    obtain ⟨fuel, rfl⟩ : ∃ n, fuel = n + 1 := Nat.exists_eq_add_one_of_ne_zero (by omega)
    rw [List.append_assoc, List.append_assoc]
    exact parseElements_next (parseValue_append one (by omega) (comma.delimited (by simp)))
      (comma.skipBlanks (by decide)) (parseElements_append others (by omega))

/-- The members of an object are parsed with the brace behind them. -/
lemma parseMembers_append : ∀ {members : List (List Char × Json)} {text : List Char},
    SpellsMembers members text →
    ∀ {fuel : Nat} {rest : List Char}, 2 * text.length ≤ fuel + 1 →
      parseMembers fuel (text ++ rest) = some (members, rest)
  | _, _, .last name one close, fuel, rest, enough => by
    have some_ := close.length_pos
    rw [List.length_append, List.length_append] at enough
    obtain ⟨fuel, rfl⟩ : ∃ n, fuel = n + 1 := Nat.exists_eq_add_one_of_ne_zero (by omega)
    rw [List.append_assoc, List.append_assoc]
    exact parseMembers_last name (parseValue_append one (by omega) (close.delimited (by simp)))
      (close.skipBlanks (by decide))
  | _, _, .next name one comma others, fuel, rest, enough => by
    have some_ := comma.length_pos
    rw [List.length_append, List.length_append, List.length_append] at enough
    obtain ⟨fuel, rfl⟩ : ∃ n, fuel = n + 1 := Nat.exists_eq_add_one_of_ne_zero (by omega)
    rw [List.append_assoc, List.append_assoc, List.append_assoc]
    exact parseMembers_next name (parseValue_append one (by omega) (comma.delimited (by simp)))
      (comma.skipBlanks (by decide)) (parseMembers_append others (by omega))

end

/-- A text of a value, with blanks around it. -/
def Spelled (value : Json) (text : String) : Prop :=
  ∃ front behind, text.toList = front ++ behind ∧ Spells value front ∧
    ∀ b ∈ behind, isBlank b = true

/-- The parser finds the value that a text spells. -/
theorem parse?_of_spelled {value : Json} {text : String} (h : Spelled value text) :
    parse? text = some value := by
  obtain ⟨front, behind, whole, spells, blanks⟩ := h
  have nothing : skipBlanks behind = [] := List.dropWhile_eq_nil_iff.2 blanks
  have ends : Delimited behind := fun c next => .inl (blanks c (List.mem_of_mem_head? next))
  have enough : 2 * front.length ≤ 2 * text.toList.length + 1 := by
    rw [whole, List.length_append]
    omega
  unfold parse?
  simp only [whole] at enough ⊢
  rw [parseValue_append spells enough ends]
  simp only [nothing, if_pos]

/-! ### What is rendered -/

section render

variable {elements : List Json} {members : List (List Char × Json)}

/-- A text is spelled by what is written for it. -/
lemma spells_ofText (s : String) : Spells (ofText s) (ofText s).renderValue :=
  .string (raw_escape s.toList)

/-- A natural number is spelled by what is written for it. -/
lemma spells_ofNat (n : Nat) : Spells (ofNat n) (ofNat n).renderValue :=
  .number (literal_toDigits n)

/-- A truth value is spelled by what is written for it. -/
lemma spells_bool (b : Bool) : Spells (bool b) (bool b).renderValue := by
  cases b with
  | false => exact .false_
  | true => exact .true_

/-- Elements are spelled by what is written for them, if each of them is. -/
lemma spells_renderElements {element : Json}
    (h : ∀ e ∈ element :: elements, Spells e e.renderValue) :
    SpellsElements (element :: elements) (renderElements (element :: elements) ++ [']']) := by
  induction elements generalizing element with
  | nil => exact .last (h _ List.mem_cons_self) .here
  | cons second elements ih =>
    have later := ih fun e m => h e (List.mem_cons_of_mem _ m)
    have all := SpellsElements.next (h _ List.mem_cons_self) .here later
    rw [renderElements, List.append_assoc]
    · exact all
    · exact List.cons_ne_nil _ _

/-- An array is spelled by what is written for it, if its elements are. -/
lemma spells_array (h : ∀ e ∈ elements, Spells e e.renderValue) :
    Spells (array elements) (array elements).renderValue := by
  rw [renderValue]
  cases elements with
  | nil => exact .emptyArray .here
  | cons element elements => exact .array (spells_renderElements h)

/-- Members are spelled by what is written for them, if each of them is. -/
lemma spells_renderMembers {name : List Char} {value : Json}
    (h : ∀ m ∈ (name, value) :: members, Raw m.1 ∧ Spells m.2 m.2.renderValue) :
    SpellsMembers ((name, value) :: members)
      (renderMembers ((name, value) :: members) ++ ['}']) := by
  induction members generalizing name value with
  | nil =>
    obtain ⟨raw, spells⟩ := h _ List.mem_cons_self
    have all := SpellsMembers.last (.mk .here raw .here) spells .here
    rw [renderMembers]
    simpa using all
  | cons second members ih =>
    obtain ⟨raw, spells⟩ := h _ List.mem_cons_self
    have later := ih fun m listed => h m (List.mem_cons_of_mem _ listed)
    have all := SpellsMembers.next (.mk .here raw .here) spells .here later
    rw [renderMembers]
    · simpa using all
    · exact List.cons_ne_nil _ _

/-- An object is spelled by what is written for it, if its members are. -/
lemma spells_object (h : ∀ m ∈ members, Raw m.1 ∧ Spells m.2 m.2.renderValue) :
    Spells (object members) (object members).renderValue := by
  rw [renderValue]
  cases members with
  | nil => exact .emptyObject .here
  | cons member members => exact .object (spells_renderMembers h)

/-- What is written for a value is a text of it. -/
lemma spelled_render {value : Json} (h : Spells value value.renderValue) :
    Spelled value value.render :=
  ⟨_, [], by simp [render], h, List.forall_mem_nil _⟩

end render

end StoreClient.Json
