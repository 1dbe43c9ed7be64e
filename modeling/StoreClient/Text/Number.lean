/-!
# Unsigned decimal numbers

Reads a decimal number below a bound: digits, optionally behind a plus sign. The text is read from
left to right, and the first character that is no digit, or that makes the number too large, is the
one that is reported.
-/

namespace StoreClient.Decimal

/-- Why a text is no number. -/
inductive Cause where
  | empty
  | invalidDigit
  /-- The number is not below the bound. -/
  | tooLarge
  deriving DecidableEq, Repr

/-- The wording of a cause. -/
def Cause.message : Cause → String
  | empty => "cannot parse integer from empty string"
  | invalidDigit => "invalid digit found in string"
  | tooLarge => "number too large to fit in target type"

/-- The value of a decimal digit. -/
def digit? (c : Char) : Option Nat :=
  if c.isDigit then some (c.toNat - '0'.toNat) else none

/-- Reads digits behind those that spelled `n`. -/
def readDigits (bound : Nat) : (n : Nat) → List Char → Except Cause Nat
  | n, [] => .ok n
  | n, c :: rest =>
    match digit? c with
    | none => .error .invalidDigit
    | some d =>
      if 10 * n + d < bound then readDigits bound (10 * n + d) rest else .error .tooLarge

/-- The number below `bound` that a text spells. -/
def read (bound : Nat) (s : List Char) : Except Cause Nat :=
  match s with
  | [] => .error .empty
  | ['+'] => .error .invalidDigit
  | '+' :: rest => readDigits bound 0 rest
  | rest => readDigits bound 0 rest

end StoreClient.Decimal
