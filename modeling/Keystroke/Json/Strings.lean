import Keystroke.Json.Reader

/-!
Strings of a JSON text, from the character after the opening quote.

A string that is read must spell characters: escapes of surrogates come in pairs. A string that is
skipped must only be well formed.

* `Json.hexQuad`: the four digits of a `\u` escape;
* `Json.escape`, `Json.skipEscape`: one escape, read or skipped, from after the backslash;
* `Json.stringBody`, `Json.skipString`: the rest of a string up to and with its closing quote.

Each leaves a shorter text (`length_lt_of_escape`, `length_lt_of_stringBody`, …).
-/

namespace Keystroke.Json

/-! ### Escapes by code point -/

/-- The value of a hexadecimal digit in either case. -/
def hexDigit? (c : Char) : Option Nat :=
  if '0' ≤ c ∧ c ≤ '9' then some (c.toNat - '0'.toNat)
  else if 'a' ≤ c ∧ c ≤ 'f' then some (c.toNat - 'a'.toNat + 10)
  else if 'A' ≤ c ∧ c ≤ 'F' then some (c.toNat - 'A'.toNat + 10)
  else none

/-- The number that four hexadecimal digits stand for. -/
def hexQuad? (a b c d : Char) : Option Nat :=
  match hexDigit? a, hexDigit? b, hexDigit? c, hexDigit? d with
  | some w, some x, some y, some z => some (((w * 16 + x) * 16 + y) * 16 + z)
  | _, _, _, _ => none

/-- What is wrong where four hexadecimal digits are due: the four bytes that stand there, or the
end of the text before the fourth. -/
def hexQuadFault (s : List Char) : Fault :=
  if byteLength s < 4 then .here .endInString [] else ⟨.invalidEscape, s, 4⟩

/-- Reads the four digits after `\u`. -/
def hexQuad : List Char → Step Nat
  | a :: b :: c :: d :: r =>
      match hexQuad? a b c d with
      | some n => .ok (n, r)
      | none => .error (hexQuadFault (a :: b :: c :: d :: r))
  | s => .error (hexQuadFault s)

theorem length_lt_of_hexQuad {s r : List Char} {n : Nat} (h : hexQuad s = .ok (n, r)) :
    r.length < s.length := by
  unfold hexQuad at h
  split at h
  · split at h
    · rw [← rest_eq h]
      simp only [List.length_cons]
      omega
    · simp at h
  · simp at h

/-- Whether a unit is the first half of a surrogate pair. -/
def isLeading (n : Nat) : Bool :=
  0xd800 ≤ n && n < 0xdc00

/-- Whether a unit is the second half of a surrogate pair. -/
def isTrailing (n : Nat) : Bool :=
  0xdc00 ≤ n && n < 0xe000

/-- The character of a surrogate pair. -/
def pairChar (leading trailing : Nat) : Char :=
  Char.ofNat (0x10000 + (leading - 0xd800) * 0x400 + (trailing - 0xdc00))

/-- Reads the second half of a surrogate pair, an escape of its own. -/
def trailingEscape (leading : Nat) : List Char → Step Char
  | [] => .error (.here .endInString [])
  | ['\\'] => .error (.here .endInString [])
  | '\\' :: 'u' :: r =>
      match hexQuad r with
      | .error f => .error f
      | .ok (n, r') =>
          if isTrailing n then .ok (pairChar leading n, r')
          else .error (.here .loneSurrogate r')
  | '\\' :: rest => .error (.next .unfinishedPair rest)
  | rest => .error (.next .unfinishedPair rest)

theorem length_lt_of_trailingEscape {n : Nat} {s r : List Char} {c : Char}
    (h : trailingEscape n s = .ok (c, r)) : r.length < s.length := by
  unfold trailingEscape at h
  split at h
  · simp at h
  · simp at h
  · split at h
    · simp at h
    · rename_i hq
      have := length_lt_of_hexQuad hq
      split at h
      · rw [← rest_eq h]
        simp only [List.length_cons]
        omega
      · simp at h
  · simp at h
  · simp at h

/-- Reads a `\u` escape from after the `u`: one unit, or a pair of surrogates. -/
def unicodeEscape (s : List Char) : Step Char :=
  match hexQuad s with
  | .error f => .error f
  | .ok (n, r) =>
      if isTrailing n then .error (.here .loneSurrogate r)
      else if isLeading n then trailingEscape n r
      else .ok (Char.ofNat n, r)

theorem length_lt_of_unicodeEscape {s r : List Char} {c : Char}
    (h : unicodeEscape s = .ok (c, r)) : r.length < s.length := by
  rw [unicodeEscape] at h
  split at h
  · simp at h
  · rename_i hq
    have := length_lt_of_hexQuad hq
    split at h
    · simp at h
    · split at h
      · have := length_lt_of_trailingEscape h
        omega
      · rw [← rest_eq h]
        omega

/-! ### Escapes -/

/-- The character of an escape of one letter. -/
def simpleEscape? : Char → Option Char
  | '"' => some '"'
  | '\\' => some '\\'
  | '/' => some '/'
  | 'b' => some '\x08'
  | 'f' => some '\x0c'
  | 'n' => some '\n'
  | 'r' => some '\r'
  | 't' => some '\t'
  | _ => none

/-- Reads an escape from after the backslash. -/
def escape : List Char → Step Char
  | [] => .error (.here .endInString [])
  | 'u' :: r => unicodeEscape r
  | c :: r =>
      match simpleEscape? c with
      | some d => .ok (d, r)
      | none => .error (.next .invalidEscape (c :: r))

theorem length_lt_of_escape {s r : List Char} {c : Char} (h : escape s = .ok (c, r)) :
    r.length < s.length := by
  unfold escape at h
  split at h
  · simp at h
  · have := length_lt_of_unicodeEscape h
    simp only [List.length_cons]
    omega
  · split at h
    · rw [← rest_eq h]
      simp
    · simp at h

/-- Skips an escape from after the backslash; any four digits will do after `\u`. -/
def skipEscape : List Char → Except Fault (List Char)
  | [] => .error (.here .endInString [])
  | 'u' :: r =>
      match hexQuad r with
      | .error f => .error f
      | .ok (_, r') => .ok r'
  | c :: r =>
      match simpleEscape? c with
      | some _ => .ok r
      | none => .error (.next .invalidEscape (c :: r))

theorem length_lt_of_skipEscape {s r : List Char} (h : skipEscape s = .ok r) :
    r.length < s.length := by
  unfold skipEscape at h
  split at h
  · simp at h
  · split at h
    · simp at h
    · rename_i hq
      have := length_lt_of_hexQuad hq
      rw [← Except.ok.inj h, List.length_cons]
      omega
  · split at h
    · rw [← Except.ok.inj h]
      simp
    · simp at h

/-! ### Strings -/

/-- Whether a character may not stand in a string. -/
def isControl (c : Char) : Bool :=
  c.toNat < 0x20

/-- Reads the rest of a string, with its closing quote. A control character counts as read where
it is found. -/
def stringBody (s : List Char) : Step (List Char) :=
  match s with
  | [] => .error (.here .endInString [])
  | '"' :: r => .ok ([], r)
  | '\\' :: r =>
      match _h : escape r with
      | .error f => .error f
      | .ok (c, r') =>
          match stringBody r' with
          | .error f => .error f
          | .ok (cs, r'') => .ok (c :: cs, r'')
  | c :: r =>
      if isControl c then .error (.next .controlCharacter (c :: r))
      else
        match stringBody r with
        | .error f => .error f
        | .ok (cs, r') => .ok (c :: cs, r')
termination_by s.length
decreasing_by
  · have := length_lt_of_escape _h
    rw [List.length_cons]
    omega
  · rw [List.length_cons]
    omega

theorem length_lt_of_stringBody {s r cs : List Char} (h : stringBody s = .ok (cs, r)) :
    r.length < s.length := by
  fun_induction stringBody s generalizing cs r with
  | case1 => simp at h
  | case2 r' => simp_all
  | case3 => simp at h
  | case4 => simp at h
  | case5 r' c r₁ he cs' r₂ hs ih =>
    have := ih hs
    have := length_lt_of_escape he
    rw [← rest_eq h, List.length_cons]
    omega
  | case6 => simp at h
  | case7 => simp at h
  | case8 c r' _ _ _ cs' r₂ hs ih =>
    have := ih hs
    rw [← rest_eq h, List.length_cons]
    omega

/-- Skips the rest of a string, with its closing quote. A control character does not count as
read where it is found. -/
def skipString (s : List Char) : Except Fault (List Char) :=
  match s with
  | [] => .error (.here .endInString [])
  | '"' :: r => .ok r
  | '\\' :: r =>
      match _h : skipEscape r with
      | .error f => .error f
      | .ok r' => skipString r'
  | c :: r => if isControl c then .error (.here .controlCharacter (c :: r)) else skipString r
termination_by s.length
decreasing_by
  · have := length_lt_of_skipEscape _h
    rw [List.length_cons]
    omega
  · rw [List.length_cons]
    omega

theorem length_lt_of_skipString {s r : List Char} (h : skipString s = .ok r) :
    r.length < s.length := by
  fun_induction skipString s with
  | case1 => simp at h
  | case2 r' => simp_all
  | case3 => simp at h
  | case4 r' r₁ he ih =>
    have := ih h
    have := length_lt_of_skipEscape he
    simp only [List.length_cons]
    omega
  | case5 => simp at h
  | case6 c r' _ _ _ ih =>
    have := ih h
    simp only [List.length_cons]
    omega

end Keystroke.Json
