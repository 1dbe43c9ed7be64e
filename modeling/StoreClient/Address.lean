/-!
# Socket addresses

An IP address with a port number. `Address.text` writes the canonical form: an IPv6 address stands
in brackets, in lower-case hexadecimal without leading zeros, its longest run of two or more zero
groups (the first of equals) shortened to two colons, and an embedded IPv4 address in dotted form.
`Address.ofText?` reads every usual form.
-/

namespace StoreClient

/-- The four bytes of an IPv4 address. -/
structure IPv4 where
  a : UInt8
  b : UInt8
  c : UInt8
  d : UInt8
  deriving DecidableEq, Repr, Inhabited

/-- An IP address. -/
inductive IPAddress where
  | v4 (address : IPv4)
  /-- Eight groups of sixteen bits, and the number of the interface that they are meant for. -/
  | v6 (groups : List UInt16) (scope : UInt32 := 0)
  deriving DecidableEq, Repr

/-- An IP address with a port number. -/
structure Address where
  ip : IPAddress
  port : UInt16
  deriving DecidableEq, Repr

namespace IPv4

/-- The address in dotted form. -/
def text (x : IPv4) : String := s!"{x.a}.{x.b}.{x.c}.{x.d}"

/-- The address 127.0.0.1 of the machine itself. -/
def loopback : IPv4 := ⟨127, 0, 0, 1⟩

end IPv4

namespace IPAddress

/-! ### Writing -/

/-- Sixteen bits in hexadecimal. -/
def hexText (g : UInt16) : String := String.ofList (Nat.toDigits 16 g.toNat)

/-- The start and the length of the longest run of zero groups, the first of equals. -/
def longestZeroRun (groups : List UInt16) : Nat × Nat :=
  let runAt (i : Nat) : Nat := ((groups.drop i).takeWhile (· == 0)).length
  (List.range groups.length).foldl (fun best i => if best.2 < runAt i then (i, runAt i) else best)
    (0, 0)

/-- Groups separated by colons. -/
def joinGroups (groups : List UInt16) : String := ":".intercalate (groups.map hexText)

/-- The canonical form of an IPv6 address. -/
def textOfGroups (groups : List UInt16) : String :=
  match groups with
  | [0, 0, 0, 0, 0, 0xFFFF, x, y] =>
    "::ffff:" ++ (IPv4.mk (x >>> 8).toUInt8 x.toUInt8 (y >>> 8).toUInt8 y.toUInt8).text
  | groups =>
    let (start, length) := longestZeroRun groups
    if length < 2 then joinGroups groups
    else joinGroups (groups.take start) ++ "::" ++ joinGroups (groups.drop (start + length))

/-! ### Reading

Every reader takes what it can off the front of a text and gives the rest.
-/

/-- A number in the given base, of at most `maxDigits` digits and below the bound. -/
def readNumber (base maxDigits bound : Nat) (leadingZeros : Bool) (s : List Char) :
    Option (Nat × List Char) :=
  let value (c : Char) : Option Nat :=
    let n :=
      if c.isDigit then c.toNat - '0'.toNat
      else if 'a' ≤ c ∧ c ≤ 'f' then c.toNat - 'a'.toNat + 10
      else if 'A' ≤ c ∧ c ≤ 'F' then c.toNat - 'A'.toNat + 10
      else base
    if n < base then some n else none
  let digits := s.takeWhile (fun c => (value c).isSome)
  let n := digits.foldl (fun n c => base * n + (value c).getD 0) 0
  if digits = [] ∨ maxDigits < digits.length ∨ bound ≤ n then none
  else if !leadingZeros ∧ 1 < digits.length ∧ digits.head? = some '0' then none
  else some (n, s.drop digits.length)

/-- A given character. -/
def readChar (expected : Char) : List Char → Option (List Char)
  | c :: rest => if c = expected then some rest else none
  | [] => none

/-- One byte of a dotted address. -/
def readByte (s : List Char) : Option (UInt8 × List Char) := do
  let (n, rest) ← readNumber 10 3 256 false s
  return (UInt8.ofNat n, rest)

/-- An IPv4 address in dotted form. -/
def readIPv4 (s : List Char) : Option (IPv4 × List Char) := do
  let (a, s) ← readByte s
  let (b, s) ← readByte (← readChar '.' s)
  let (c, s) ← readByte (← readChar '.' s)
  let (d, s) ← readByte (← readChar '.' s)
  return (⟨a, b, c, d⟩, s)

/-- Up to `limit` groups separated by colons, of which a dotted address is the last two; `first`
says that no colon stands in front. -/
def readGroups : (limit : Nat) → (first : Bool) → List Char → List UInt16 × List Char
  | 0, _, s => ([], s)
  | limit + 1, first, s =>
    let start := if first then some s else readChar ':' s
    let dotted := if limit = 0 then none else start.bind readIPv4
    match dotted, start.bind (readNumber 16 4 0x10000 true) with
    | some (x, rest), _ =>
      let pair (x y : UInt8) : UInt16 := 256 * x.toUInt16 + y.toUInt16
      ([pair x.a x.b, pair x.c x.d], rest)
    | none, some (n, rest) =>
      let (more, rest) := readGroups limit false rest
      (UInt16.ofNat n :: more, rest)
    | none, none => ([], s)

/-- The groups of an IPv6 address. -/
def readIPv6 (s : List Char) : Option (List UInt16 × List Char) :=
  let (head, rest) := readGroups 8 true s
  if head.length = 8 then some (head, rest)
  else do
    let rest ← readChar ':' (← readChar ':' rest)
    let (tail, rest) := readGroups (7 - head.length) true rest
    return (head ++ List.replicate (8 - head.length - tail.length) 0 ++ tail, rest)

/-- An IP address without brackets, scope or port. -/
def ofText? (text : String) : Option IPAddress :=
  match readIPv4 text.toList, readIPv6 text.toList with
  | some (x, []), _ => some (v4 x)
  | _, some (groups, []) => some (v6 groups)
  | _, _ => none

end IPAddress

namespace Address

open IPAddress in
/-- The canonical form of an address. -/
def text (x : Address) : String :=
  match x.ip with
  | .v4 ip => s!"{ip.text}:{x.port}"
  | .v6 groups scope =>
    let scopeText := if scope = 0 then "" else s!"%{scope}"
    s!"[{textOfGroups groups}{scopeText}]:{x.port}"

/-- The end of an address: a colon and its port number. -/
def readPort (s : List Char) : Option UInt16 := do
  let (n, rest) ← IPAddress.readNumber 10 s.length 0x10000 true (← IPAddress.readChar ':' s)
  if rest = [] then return UInt16.ofNat n else none

/-- The number of an interface, if one is given, and the rest. -/
def readScope : List Char → Option (UInt32 × List Char)
  | '%' :: s => do
    let (n, rest) ← IPAddress.readNumber 10 s.length 0x100000000 true s
    return (UInt32.ofNat n, rest)
  | s => some (0, s)

/-- The address that a text spells. -/
def ofText? (text : String) : Option Address :=
  match text.toList with
  | '[' :: s => do
    let (groups, s) ← IPAddress.readIPv6 s
    let (scope, s) ← readScope s
    return ⟨.v6 groups scope, ← readPort (← IPAddress.readChar ']' s)⟩
  | s => do
    let (ip, s) ← IPAddress.readIPv4 s
    return ⟨.v4 ip, ← readPort s⟩

end Address

end StoreClient
