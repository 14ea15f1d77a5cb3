import Keystroke.Json.Number
import Keystroke.Json.Strings

/-!
Values of another kind than the one asked for.

* `Json.mismatch`: what is wrong with the value a text begins with, when its kind is not the one
  asked for. Words, numbers and strings are read first, and what is wrong inside them comes before
  the mismatch; containers are not entered.
-/

namespace Keystroke.Json

/-- What was found, as a number. -/
def Number.found : Number → Found
  | natural n => .integer n
  | negative n => .integer (-n)
  | floating b x => .floating b x

/-- The mismatch of a word that was found. -/
def mismatchWord (expected : String) (found : Found) (letters r : List Char) : Fault :=
  match word letters r with
  | .error f => f
  | .ok r' => .here (.invalidType found expected) r'

/-- What is wrong with the value a text begins with, where `expected` was asked for. -/
def mismatch (expected : String) : List Char → Fault
  | 'n' :: r => mismatchWord expected .null ['u', 'l', 'l'] r
  | 't' :: r => mismatchWord expected (.boolean true) ['r', 'u', 'e'] r
  | 'f' :: r => mismatchWord expected (.boolean false) ['a', 'l', 's', 'e'] r
  | '"' :: r =>
      match stringBody r with
      | .error f => f
      | .ok (cs, r') => .here (.invalidType (.string (String.ofList cs)) expected) r'
  | '[' :: r => .here (.invalidType .sequence expected) ('[' :: r)
  | '\x7b' :: r => .here (.invalidType .map expected) ('\x7b' :: r)
  | [] => .next .endInValue []
  | c :: r =>
      if c = '-' ∨ isDigit c then
        match number (c :: r) with
        | .error f => f
        | .ok (n, r') => .here (.invalidType n.found expected) r'
      else .next .expectedValue (c :: r)

end Keystroke.Json
