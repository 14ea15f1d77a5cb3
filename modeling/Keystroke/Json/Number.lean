import Keystroke.Json.Reader

/-!
Numbers of a JSON text.

A number is first read as written (`Json.Literal`), then valued: whole literals that fit keep
their value exactly, all others become doubles.

* `Literal.read`: the longest number the text begins with, and `length_lt_of_read`;
* `Json.skipNumber`: a number of any size, skipped;
* `Literal.value`: a literal as a natural number, a negative whole number or a double;
* `Json.number`: a number with its value.
-/

namespace Keystroke.Json

/-- A decimal digit. -/
def isDigit (c : Char) : Bool :=
  '0' ≤ c && c ≤ '9'

/-- The value of a decimal digit. -/
def digitValue (c : Char) : Nat :=
  c.toNat - '0'.toNat

/-- The digits a text begins with. -/
def digitsOf (s : List Char) : List Char :=
  s.takeWhile isDigit

/-- The text after the digits it begins with. -/
def afterDigits (s : List Char) : List Char :=
  s.dropWhile isDigit

theorem digitsOf_append_afterDigits (s : List Char) : digitsOf s ++ afterDigits s = s :=
  List.takeWhile_append_dropWhile

theorem length_afterDigits_le (s : List Char) : (afterDigits s).length ≤ s.length :=
  (List.dropWhile_sublist isDigit).length_le

/-! ### Literals -/

/-- A number as written. -/
structure Literal where
  /-- Whether a minus sign stands in front. -/
  negative : Bool
  /-- The digits before the point. -/
  whole : List Char
  /-- The digits after the point, if there is one. -/
  fraction : Option (List Char)
  /-- Whether the exponent is negative and its digits, if there is one. -/
  exponent : Option (Bool × List Char)

namespace Literal

/-- Reads the digits before the point. A nought stands alone. -/
def readWhole : List Char → Step (List Char)
  | [] => .error (.here .endInValue [])
  | '0' :: c :: r =>
      if isDigit c then .error (.next .invalidNumber (c :: r)) else .ok (['0'], c :: r)
  | c :: r =>
      if isDigit c then .ok (c :: digitsOf r, afterDigits r)
      else .error (.next .invalidNumber (c :: r))

theorem length_lt_of_readWhole {s r ds : List Char} (h : readWhole s = .ok (ds, r)) :
    r.length < s.length := by
  unfold readWhole at h
  split at h
  · simp at h
  · split at h
    · simp at h
    · rw [← rest_eq h]
      simp
  · rename_i r' _
    have := length_afterDigits_le r'
    split at h
    · rw [← rest_eq h, List.length_cons]
      omega
    · simp at h

/-- Reads a point and the digits after it, of which there is at least one. -/
def readFraction : List Char → Step (Option (List Char))
  | '.' :: r =>
      match digitsOf r with
      | [] =>
          match r with
          | [] => .error (.here .endInValue [])
          | rest => .error (.next .invalidNumber rest)
      | digits => .ok (some digits, afterDigits r)
  | s => .ok (none, s)

theorem length_le_of_readFraction {s r : List Char} {ds : Option (List Char)}
    (h : readFraction s = .ok (ds, r)) : r.length ≤ s.length := by
  unfold readFraction at h
  split at h
  · rename_i r'
    have := length_afterDigits_le r'
    split at h
    · split at h <;> simp at h
    · rw [← rest_eq h, List.length_cons]
      omega
  · exact Nat.le_of_eq (congrArg List.length (rest_eq h).symm)

/-- The text after the sign of an exponent, and whether the sign is a minus. -/
def readSign : List Char → Bool × List Char
  | '+' :: r => (false, r)
  | '-' :: r => (true, r)
  | s => (false, s)

theorem length_readSign_le (s : List Char) : (readSign s).2.length ≤ s.length := by
  unfold readSign
  split <;> simp

/-- Reads the digits of an exponent, of which there is at least one. -/
def readExponentDigits : List Char → Step (List Char)
  | [] => .error (.here .endInValue [])
  | c :: r =>
      if isDigit c then .ok (c :: digitsOf r, afterDigits r)
      else .error (.next .invalidNumber (c :: r))

theorem length_lt_of_readExponentDigits {s r ds : List Char}
    (h : readExponentDigits s = .ok (ds, r)) : r.length < s.length := by
  unfold readExponentDigits at h
  split at h
  · simp at h
  · rename_i c r'
    have := length_afterDigits_le r'
    split at h
    · rw [← rest_eq h, List.length_cons]
      omega
    · simp at h

/-- Reads an exponent. -/
def readExponent : List Char → Step (Option (Bool × List Char))
  | [] => .ok (none, [])
  | c :: r =>
      if c = 'e' ∨ c = 'E' then
        match readExponentDigits (readSign r).2 with
        | .error f => .error f
        | .ok (digits, r') => .ok (some ((readSign r).1, digits), r')
      else .ok (none, c :: r)

theorem length_le_of_readExponent {s r : List Char} {e : Option (Bool × List Char)}
    (h : readExponent s = .ok (e, r)) : r.length ≤ s.length := by
  unfold readExponent at h
  split at h
  · simp_all
  · rename_i c r'
    have := length_readSign_le r'
    split at h
    · split at h
      · simp at h
      · rename_i hd
        have := length_lt_of_readExponentDigits hd
        rw [← rest_eq h, List.length_cons]
        omega
    · exact Nat.le_of_eq (congrArg List.length (rest_eq h).symm)

/-- Reads a number from after its sign. -/
def readUnsigned (negative : Bool) (s : List Char) : Step Literal :=
  match readWhole s with
  | .error f => .error f
  | .ok (whole, r₁) =>
      match readFraction r₁ with
      | .error f => .error f
      | .ok (fraction, r₂) =>
          match readExponent r₂ with
          | .error f => .error f
          | .ok (exponent, r₃) => .ok (⟨negative, whole, fraction, exponent⟩, r₃)

theorem length_lt_of_readUnsigned {b : Bool} {s r : List Char} {l : Literal}
    (h : readUnsigned b s = .ok (l, r)) : r.length < s.length := by
  rw [readUnsigned] at h
  split at h
  · simp at h
  · rename_i hw
    have := length_lt_of_readWhole hw
    split at h
    · simp at h
    · rename_i hf
      have := length_le_of_readFraction hf
      split at h
      · simp at h
      · rename_i he
        have := length_le_of_readExponent he
        rw [← rest_eq h]
        omega

/-- Reads the longest number the text begins with. -/
def read : List Char → Step Literal
  | '-' :: r => readUnsigned true r
  | s => readUnsigned false s

theorem length_lt_of_read {s r : List Char} {l : Literal} (h : read s = .ok (l, r)) :
    r.length < s.length := by
  unfold read at h
  split at h
  · have := length_lt_of_readUnsigned h
    simp only [List.length_cons]
    omega
  · exact length_lt_of_readUnsigned h

end Literal

/-- Skips a number. Every fault of it is a bad number, the end of the text too. -/
def skipNumber (s : List Char) : Except Fault (List Char) :=
  match Literal.read s with
  | .error f => .error { f with cause := .invalidNumber }
  | .ok (_, r) => .ok r

theorem length_lt_of_skipNumber {s r : List Char} (h : skipNumber s = .ok r) :
    r.length < s.length := by
  rw [skipNumber] at h
  split at h
  · simp at h
  · rename_i hl
    exact Except.ok.inj h ▸ Literal.length_lt_of_read hl

/-! ### Values -/

/-- The value of a number. -/
inductive Number where
  | natural (n : Nat)
  /-- The whole number below nought with this size. -/
  | negative (size : Nat)
  | floating (negative : Bool) (x : Decimal.Binary64)

/-- The number that digits add to a significand, as long as it stays below `2 ^ 64`, and how many
digits are left from the first one that would pass it. -/
def significand : Nat → List Char → Nat × Nat
  | m, [] => (m, 0)
  | m, d :: rest =>
      if m * 10 + digitValue d < UInt64.size then significand (m * 10 + digitValue d) rest
      else (m, rest.length + 1)

/-- The value of the digits of an exponent, or the digits after the one that passes
`2 ^ 31 - 1`. -/
def exponentValue : Nat → List Char → Except (List Char) Nat
  | e, [] => .ok e
  | e, d :: rest =>
      if e * 10 + digitValue d < 1 <<< 31 then exponentValue (e * 10 + digitValue d) rest
      else .error rest

/-- An exponent kept within 32 bits. -/
def clampExponent (e : Int) : Int :=
  max Int32.minValue.toInt (min Int32.maxValue.toInt e)

namespace Literal

/-- The significand of a literal and the power of ten that goes with it when its exponent is left
aside, and whether all digits before the point are in the significand. -/
def parts (l : Literal) : Nat × Int × Bool :=
  let (m, dropped) := significand 0 l.whole
  match l.fraction with
  | none => (m, dropped, dropped == 0)
  | some digits =>
      let (m', left) := significand m digits
      (m', (dropped : Int) + left - digits.length, dropped == 0)

/-- The double of a significand and a power of ten. -/
def scaled (negative : Bool) (m : Nat) (e : Int) (rest : List Char) : Except Fault Number :=
  match (Decimal.Binary64.ofNat? m).bind (·.timesPowerOfTen? e) with
  | some x => .ok (.floating negative x)
  | none => .error (.here .numberOutOfRange rest)

/-- The value of a literal without point and exponent whose digits make up `m`. A whole number
below nought has at most 64 bits with its sign, and nought below nought is a double. -/
def wholeValue (negative : Bool) (m : Nat) (rest : List Char) : Except Fault Number :=
  if !negative then .ok (.natural m)
  else if 0 < m ∧ m ≤ 1 <<< 63 then .ok (.negative m)
  else scaled negative m 0 rest

/-- The value of a literal before the rest of a text. An exponent past 31 bits makes nought of a
number, or puts it out of range. -/
def value (l : Literal) (rest : List Char) : Except Fault Number :=
  let (m, e, complete) := l.parts
  match l.exponent with
  | none =>
      if l.fraction.isNone && complete then wholeValue l.negative m rest
      else scaled l.negative m e rest
  | some (down, digits) =>
      match exponentValue 0 digits with
      | .ok k => scaled l.negative m (clampExponent (if down then e - k else e + k)) rest
      | .error left =>
          if m ≠ 0 ∧ !down then .error (.here .numberOutOfRange (left ++ rest))
          else .ok (.floating l.negative .zero)

end Literal

/-- Reads a number with its value. -/
def number (s : List Char) : Step Number :=
  match Literal.read s with
  | .error f => .error f
  | .ok (l, r) =>
      match l.value r with
      | .error f => .error f
      | .ok n => .ok (n, r)

theorem length_lt_of_number {s r : List Char} {n : Number} (h : number s = .ok (n, r)) :
    r.length < s.length := by
  rw [number] at h
  split at h
  · simp at h
  · rename_i hl
    have := Literal.length_lt_of_read hl
    split at h
    · simp at h
    · exact rest_eq h ▸ this

end Keystroke.Json
