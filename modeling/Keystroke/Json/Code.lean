import Keystroke.Json.Mismatch

/-!
Codes in a JSON text: natural numbers below `2 ^ 16`.

* `Json.codeReader`: reads a code.
-/

namespace Keystroke.Json

/-- What codes are called in messages. -/
def codeExpected : String :=
  "u16"

/-- The code of a number, before the rest of a text. -/
def codeOfNumber (n : Number) (rest : List Char) : Except Fault UInt16 :=
  match n with
  | .natural n =>
      if h : n < UInt16.size then .ok (UInt16.ofNatLT n h)
      else .error (.here (.invalidValue n codeExpected) rest)
  | .negative n => .error (.here (.invalidValue (-n) codeExpected) rest)
  | .floating b x => .error (.here (.invalidType (.floating b x) codeExpected) rest)

/-- Reads a code. -/
def readCode (s : List Char) : Step UInt16 :=
  match skipSpace s with
  | [] => .error (.next .endInValue [])
  | c :: r =>
      if c = '-' ∨ isDigit c then
        match number (c :: r) with
        | .error f => .error f
        | .ok (n, r') =>
            match codeOfNumber n r' with
            | .error f => .error f
            | .ok code => .ok (code, r')
      else .error (mismatch codeExpected (c :: r))

theorem length_lt_of_readCode {s r : List Char} {n : UInt16} (h : readCode s = .ok (n, r)) :
    r.length < s.length := by
  rw [readCode] at h
  split at h
  · simp at h
  · rename_i c r₀ hs
    have := length_lt_of_skipSpace hs
    split at h
    · split at h
      · simp at h
      · rename_i hn
        have := length_lt_of_number hn
        split at h
        · simp at h
        · simp only [List.length_cons] at this
          rw [← rest_eq h]
          omega
    · simp at h

/-- Reads a code: a natural number below `2 ^ 16`, without point and exponent. -/
def codeReader : Reader UInt16 :=
  ⟨readCode, length_lt_of_readCode⟩

end Keystroke.Json
