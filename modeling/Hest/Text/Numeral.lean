/-!
# Digits and numerals

Digits of a base up to thirty-six: the letters stand for ten and more, in either case when read and
in lower case when written.

Numerals are numbers below 2^64 in a base up to sixteen, with an optional plus sign and any number
of leading zeros.  `number` reads a decimal numeral, or a hexadecimal one after `0x` or `0X`.  A
numeral is refused as too large at the digit that takes it out of range, even if what follows is no
digit.
-/

namespace Hest.Text

/-! ## Digits -/

/-- The value of a digit in a base. -/
def digit? (base : Nat) (c : Char) : Option Nat :=
  let value :=
    if '0' ≤ c ∧ c ≤ '9' then c.toNat - '0'.toNat
    else if 'a' ≤ c ∧ c ≤ 'z' then c.toNat - 'a'.toNat + 10
    else if 'A' ≤ c ∧ c ≤ 'Z' then c.toNat - 'A'.toNat + 10
    else base
  if value < base then some value else none

/-- The digit that stands for a number below thirty-six. -/
def digitChar (n : Nat) : Char :=
  if n < 10 then Char.ofNat ('0'.toNat + n) else Char.ofNat ('a'.toNat + (n - 10))

/-! ## Numerals -/

/-- Why a text is no numeral. -/
inductive NumeralError where
  | empty
  | invalidDigit
  | tooLarge
deriving DecidableEq

/-- The wording of an error. -/
def NumeralError.message : NumeralError → String
  | empty => "cannot parse integer from empty string"
  | invalidDigit => "invalid digit found in string"
  | tooLarge => "number too large to fit in target type"

/-- The value of digits that follow digits of value `acc`, if it stays below 2^64. -/
def digits (base : Nat) (acc : Nat) : (s : List Char) → Except NumeralError Nat
  | [] => .ok acc
  | c :: cs =>
    match digit? base c with
    | none => .error .invalidDigit
    | some d =>
      if acc * base + d < UInt64.size then digits base (acc * base + d) cs else .error .tooLarge

/-- A numeral in a base. -/
def numeral (base : Nat) : (s : List Char) → Except NumeralError Nat
  | [] => .error .empty
  | ['+'] => .error .invalidDigit
  | '+' :: cs => digits base 0 cs
  | cs => digits base 0 cs

/-- A decimal numeral, or a hexadecimal one with its mark. -/
def number : (s : List Char) → Except NumeralError Nat
  | '0' :: 'x' :: cs => numeral 16 cs
  | '0' :: 'X' :: cs => numeral 16 cs
  | cs => numeral 10 cs

end Hest.Text
