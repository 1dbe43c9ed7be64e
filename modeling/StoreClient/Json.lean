/-!
# JSON

JSON texts as values. A string is kept as it is written, without its quotes: `text?` undoes the
escapes when a string is wanted as text, which fails where an escape spells half of a surrogate
pair. A number is kept as its literal. An object keeps its members in order, repeated names
included, so that whoever reads it decides what a repetition means.

`Json.parse?` reads a text and `Json.render` writes one without blanks.
-/

namespace StoreClient

/-- A JSON value. -/
inductive Json where
  | null
  | bool (value : Bool)
  | number (literal : List Char)
  | string (raw : List Char)
  | array (elements : List Json)
  | object (members : List (List Char × Json))
  deriving Repr

namespace Json

/-! ### Strings -/

/-- The value of a hexadecimal digit. -/
def hexDigit? (c : Char) : Option Nat :=
  if '0' ≤ c ∧ c ≤ '9' then some (c.toNat - '0'.toNat)
  else if 'a' ≤ c ∧ c ≤ 'f' then some (c.toNat - 'a'.toNat + 10)
  else if 'A' ≤ c ∧ c ≤ 'F' then some (c.toNat - 'A'.toNat + 10)
  else none

/-- The number that four hexadecimal digits spell. -/
def hexUnit? (a b c d : Char) : Option Nat := do
  return ((16 * (← hexDigit? a) + (← hexDigit? b)) * 16 + (← hexDigit? c)) * 16 + (← hexDigit? d)

/-- What a letter behind a backslash stands for. -/
def escapeOf? : Char → Option Char
  | '"' => some '"'
  | '\\' => some '\\'
  | '/' => some '/'
  | 'b' => some '\x08'
  | 'f' => some '\x0c'
  | 'n' => some '\n'
  | 'r' => some '\r'
  | 't' => some '\t'
  | _ => none

/-- The rest of a string up to its closing quote, as it is written, and what follows it. -/
def scanString : List Char → Option (List Char × List Char)
  | [] => none
  | '"' :: rest => some ([], rest)
  | '\\' :: 'u' :: a :: b :: c :: d :: rest => do
    let _ ← hexUnit? a b c d
    let (raw, rest) ← scanString rest
    return ('\\' :: 'u' :: a :: b :: c :: d :: raw, rest)
  | '\\' :: c :: rest => do
    let _ ← escapeOf? c
    let (raw, rest) ← scanString rest
    return ('\\' :: c :: raw, rest)
  | c :: rest =>
    if c.toNat < 0x20 then none
    else do
      let (raw, rest) ← scanString rest
      return (c :: raw, rest)

/-- Undoes the escapes of a string. -/
def unescape? : List Char → Option (List Char)
  | [] => some []
  | '\\' :: 'u' :: a :: b :: c :: d :: rest => do
    let unit ← hexUnit? a b c d
    if 0xD800 ≤ unit ∧ unit < 0xDC00 then
      match rest with
      | '\\' :: 'u' :: a :: b :: c :: d :: rest => do
        let low ← hexUnit? a b c d
        if 0xDC00 ≤ low ∧ low < 0xE000 then
          let c := Char.ofNat (0x10000 + (unit - 0xD800) * 0x400 + (low - 0xDC00))
          return c :: (← unescape? rest)
        else
          none
      | _ => none
    else if 0xDC00 ≤ unit ∧ unit < 0xE000 then
      none
    else
      return Char.ofNat unit :: (← unescape? rest)
  | '\\' :: c :: rest => do
    return (← escapeOf? c) :: (← unescape? rest)
  | c :: rest => do
    return c :: (← unescape? rest)

/-- The hexadecimal digit of a number below sixteen. -/
def hexDigit (n : Nat) : Char := if n < 10 then Char.ofNat (48 + n) else Char.ofNat (87 + n)

/-- A character as it is written in a string: quotes, backslashes and control characters are
escaped, the latter by a letter where there is one. -/
def escapeChar (c : Char) : List Char :=
  if c = '"' then ['\\', '"']
  else if c = '\\' then ['\\', '\\']
  else if c = '\x08' then ['\\', 'b']
  else if c = '\x0c' then ['\\', 'f']
  else if c = '\n' then ['\\', 'n']
  else if c = '\r' then ['\\', 'r']
  else if c = '\t' then ['\\', 't']
  else if c.toNat < 0x20 then
    ['\\', 'u', '0', '0', hexDigit (c.toNat / 16), hexDigit (c.toNat % 16)]
  else [c]

/-- The string that stands for a text. -/
def ofText (s : String) : Json := string (s.toList.flatMap escapeChar)

/-- The text that a string stands for. -/
def text? : Json → Option String
  | string raw => (unescape? raw).map String.ofList
  | _ => none

/-! ### Numbers -/

/-- The digits at the front of a text and the rest. -/
def spanDigits (s : List Char) : List Char × List Char := s.span Char.isDigit

/-- At least one digit at the front of a text, and the rest. -/
def scanDigits (s : List Char) : Option (List Char × List Char) :=
  match spanDigits s with
  | ([], _) => none
  | r => some r

/-- The whole part of a number, which has no superfluous zero in front, and the rest. -/
def scanWhole (s : List Char) : Option (List Char × List Char) := do
  let (digits, rest) ← scanDigits s
  if digits.length > 1 ∧ digits.head? = some '0' then
    none
  else
    return (digits, rest)

/-- The fraction of a number, if there is one, and the rest. -/
def scanFraction : List Char → Option (List Char × List Char)
  | '.' :: rest => do
    let (digits, rest) ← scanDigits rest
    return ('.' :: digits, rest)
  | rest => some ([], rest)

/-- The sign of an exponent, if there is one, and the rest. -/
def spanSign : List Char → List Char × List Char
  | c :: rest => if c = '+' ∨ c = '-' then ([c], rest) else ([], c :: rest)
  | [] => ([], [])

/-- The exponent of a number, if there is one, and the rest. -/
def scanExponent : List Char → Option (List Char × List Char)
  | c :: rest =>
    if c = 'e' ∨ c = 'E' then do
      let (sign, rest) := spanSign rest
      let (digits, rest) ← scanDigits rest
      return (c :: (sign ++ digits), rest)
    else
      some ([], c :: rest)
  | [] => some ([], [])

/-- The literal of a number at the front of a text, and the rest. -/
def scanNumber (s : List Char) : Option (List Char × List Char) := do
  let (sign, rest) := match s with
    | '-' :: rest => (['-'], rest)
    | rest => ([], rest)
  let (whole, rest) ← scanWhole rest
  let (fraction, rest) ← scanFraction rest
  let (exponent, rest) ← scanExponent rest
  return (sign ++ whole ++ fraction ++ exponent, rest)

/-- The decimal digits of a number. -/
def ofNat (n : Nat) : Json := number (Nat.toDigits 10 n)

/-- The number that a literal of digits alone spells. -/
def nat? : Json → Option Nat
  | number literal =>
    if literal.all Char.isDigit then
      some (literal.foldl (fun n c => 10 * n + (c.toNat - '0'.toNat)) 0)
    else
      none
  | _ => none

/-! ### Texts -/

/-- Whether a character may stand between the parts of a text. -/
def isBlank (c : Char) : Bool := c == ' ' || c == '\t' || c == '\n' || c == '\r'

/-- A text without the blanks in front. -/
def skipBlanks (s : List Char) : List Char := s.dropWhile isBlank

mutual

/-- The value at the front of a text, and the rest. -/
def parseValue : (fuel : Nat) → List Char → Option (Json × List Char)
  | 0, _ => none
  | fuel + 1, s =>
    match skipBlanks s with
    | 'n' :: 'u' :: 'l' :: 'l' :: rest => some (null, rest)
    | 't' :: 'r' :: 'u' :: 'e' :: rest => some (bool true, rest)
    | 'f' :: 'a' :: 'l' :: 's' :: 'e' :: rest => some (bool false, rest)
    | '"' :: rest => do
      let (raw, rest) ← scanString rest
      return (string raw, rest)
    | '[' :: rest =>
      match skipBlanks rest with
      | ']' :: rest => some (array [], rest)
      | rest => do
        let (elements, rest) ← parseElements fuel rest
        return (array elements, rest)
    | '{' :: rest =>
      match skipBlanks rest with
      | '}' :: rest => some (object [], rest)
      | rest => do
        let (members, rest) ← parseMembers fuel rest
        return (object members, rest)
    | rest => do
      let (literal, rest) ← scanNumber rest
      return (number literal, rest)

/-- The elements of an array from the front of a text on, and what follows the array. -/
def parseElements : (fuel : Nat) → List Char → Option (List Json × List Char)
  | 0, _ => none
  | fuel + 1, s => do
    let (element, rest) ← parseValue fuel s
    match skipBlanks rest with
    | ',' :: rest => do
      let (elements, rest) ← parseElements fuel rest
      return (element :: elements, rest)
    | ']' :: rest => some ([element], rest)
    | _ => none

/-- The members of an object from the front of a text on, and what follows the object. -/
def parseMembers : (fuel : Nat) → List Char → Option (List (List Char × Json) × List Char)
  | 0, _ => none
  | fuel + 1, s =>
    match skipBlanks s with
    | '"' :: rest => do
      let (name, rest) ← scanString rest
      match skipBlanks rest with
      | ':' :: rest => do
        let (value, rest) ← parseValue fuel rest
        match skipBlanks rest with
        | ',' :: rest => do
          let (members, rest) ← parseMembers fuel rest
          return ((name, value) :: members, rest)
        | '}' :: rest => some ([(name, value)], rest)
        | _ => none
      | _ => none
    | _ => none

end

/-- The value that a text spells. A value is entered at most twice per character, so twice the
length of the text bounds the nesting. -/
def parse? (text : String) : Option Json :=
  let s := text.toList
  match parseValue (2 * s.length + 1) s with
  | some (value, rest) => if skipBlanks rest = [] then some value else none
  | none => none

mutual

/-- A value as a text without blanks. -/
def renderValue : Json → List Char
  | null => "null".toList
  | bool true => "true".toList
  | bool false => "false".toList
  | number literal => literal
  | string raw => '"' :: raw ++ ['"']
  | array elements => '[' :: renderElements elements ++ [']']
  | object members => '{' :: renderMembers members ++ ['}']

/-- The elements of an array, separated by commas. -/
def renderElements : List Json → List Char
  | [] => []
  | [element] => renderValue element
  | element :: elements => renderValue element ++ ',' :: renderElements elements

/-- The members of an object, separated by commas. -/
def renderMembers : List (List Char × Json) → List Char
  | [] => []
  | [(name, value)] => '"' :: name ++ '"' :: ':' :: renderValue value
  | (name, value) :: members =>
    '"' :: name ++ '"' :: ':' :: renderValue value ++ ',' :: renderMembers members

end

/-- A value as a text without blanks. -/
def render (j : Json) : String := String.ofList (renderValue j)

end Json

end StoreClient
