import Keystroke.Direction
import Keystroke.Text.Quoted

/-!
Numerals: codes as they are typed. A numeral is hexadecimal after `0x` or `0X` and decimal
otherwise; one plus sign may stand before its digits. It is read from left to right, and the first
problem met decides: a character that is no digit, or digits that pass the largest code.

* `Numeral.digit?`: the value of a digit in a radix;
* `Numeral.accumulate`: the value of digits, kept as a code throughout, so it never wraps;
* `Numeral.parse`: the code a numeral stands for, or a `NumeralError` with its wording.
-/

namespace Keystroke

/-- Why a text is no numeral. -/
inductive NumeralError where
  /-- There is nothing to read. -/
  | empty
  /-- A character is no digit. -/
  | invalidDigit
  /-- The digits pass the largest code. -/
  | tooLarge
  deriving DecidableEq

namespace NumeralError

/-- The reason in words. -/
def reason : NumeralError → String
  | empty => "cannot parse integer from empty string"
  | invalidDigit => "invalid digit found in string"
  | tooLarge => "number too large to fit in target type"

/-- The message about a text that is no numeral. -/
def message (e : NumeralError) (text : String) : String :=
  "invalid code " ++ Text.quoted text ++ ": " ++ e.reason

end NumeralError

namespace Numeral

/-- The value of a digit, in either case for those past nine. -/
def digitValue? (c : Char) : Option Nat :=
  if '0' ≤ c ∧ c ≤ '9' then some (c.toNat - '0'.toNat)
  else if 'a' ≤ c ∧ c ≤ 'f' then some (c.toNat - 'a'.toNat + 10)
  else if 'A' ≤ c ∧ c ≤ 'F' then some (c.toNat - 'A'.toNat + 10)
  else none

/-- The value of a digit of the given radix, at most sixteen. -/
def digit? (radix : Nat) (c : Char) : Option Nat :=
  (digitValue? c).filter (· < radix)

/-- The code that digits stand for when `code` stands before them. Each step looks at the digit
first and then at the size of the value. -/
def accumulate (radix : Nat) : Code → List Char → Except NumeralError Code
  | code, [] => .ok code
  | code, c :: rest =>
      match digit? radix c with
      | none => .error .invalidDigit
      | some d =>
          if h : code.toNat * radix + d < UInt16.size then
            accumulate radix (UInt16.ofNatLT (code.toNat * radix + d) h) rest
          else .error .tooLarge

/-- The code of digits that may follow a plus sign. A sign alone counts as a bad digit. -/
def signed (radix : Nat) : List Char → Except NumeralError Code
  | [] => .error .empty
  | ['+'] => .error .invalidDigit
  | '+' :: digits => accumulate radix 0 digits
  | digits => accumulate radix 0 digits

/-- The code a numeral stands for, its radix decided by how it begins. -/
def parseChars : List Char → Except NumeralError Code
  | '0' :: 'x' :: rest => signed 16 rest
  | '0' :: 'X' :: rest => signed 16 rest
  | digits => signed 10 digits

/-- The code a numeral stands for. -/
def parse (s : String) : Except NumeralError Code :=
  parseChars s.toList

end Numeral

end Keystroke
