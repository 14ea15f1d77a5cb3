import Keystroke.Json.Mismatch

/-!
Values that are one of a few names.

A variant is written as its name in a string, or as an object whose only member has that name and
is null.

* `Json.Variants`: the values of a type with their names;
* `Variants.reader`: reads one of them.
-/

namespace Keystroke.Json

/-- The values of a type, in the order in which messages list them, and their names. -/
structure Variants (α : Type) where
  all : List α
  name : α → String

namespace Variants

/-- The value of a name, before the rest of a text. -/
def ofName {α : Type} (v : Variants α) (name : String) (rest : List Char) : Except Fault α :=
  match v.all.find? fun a => v.name a = name with
  | some a => .ok a
  | none => .error (.here (.unknownVariant name (v.all.map v.name)) rest)

end Variants

/-- Reads the null of a variant that is written as an object. -/
def readNull (s : List Char) : Except Fault (List Char) :=
  match skipSpace s with
  | [] => .error (.next .endInValue [])
  | 'n' :: r => word ['u', 'l', 'l'] r
  | rest => .error (mismatch "unit" rest)

theorem length_lt_of_readNull {s r : List Char} (h : readNull s = .ok r) :
    r.length < s.length := by
  rw [readNull] at h
  split at h
  · simp at h
  · rename_i hs
    have := length_lt_of_skipSpace hs
    have := length_le_of_word h
    omega
  · simp at h

/-- Reads the brace that closes a variant written as an object. -/
def closeVariant (s : List Char) : Except Fault (List Char) :=
  match skipSpace s with
  | [] => .error (.here .endInObject [])
  | '\x7d' :: r => .ok r
  | rest => .error (.here .expectedValue rest)

theorem length_lt_of_closeVariant {s r : List Char} (h : closeVariant s = .ok r) :
    r.length < s.length := by
  rw [closeVariant] at h
  split at h
  · simp at h
  · rename_i hs
    exact Except.ok.inj h ▸ length_lt_of_skipSpace hs
  · simp at h

/-- Reads what follows the name of a variant written as an object: a colon, null and the closing
brace. -/
def readVariantTail (s : List Char) : Except Fault (List Char) :=
  match colon s with
  | .error f => .error f
  | .ok r₁ =>
      match readNull r₁ with
      | .error f => .error f
      | .ok r₂ => closeVariant r₂

theorem length_lt_of_readVariantTail {s r : List Char} (h : readVariantTail s = .ok r) :
    r.length < s.length := by
  rw [readVariantTail] at h
  split at h
  · simp at h
  · rename_i hc
    have := length_lt_of_colon hc
    split at h
    · simp at h
    · rename_i hn
      have := length_lt_of_readNull hn
      have := length_lt_of_closeVariant h
      omega

namespace Variants

variable {α : Type} (v : Variants α)

/-- Reads the name of a variant, from after its opening quote. -/
def readName (s : List Char) : Step α :=
  match stringBody s with
  | .error f => .error f
  | .ok (name, r) =>
      match v.ofName (String.ofList name) r with
      | .error f => .error f
      | .ok a => .ok (a, r)

theorem length_lt_of_readName {s r : List Char} {a : α} (h : v.readName s = .ok (a, r)) :
    r.length < s.length := by
  rw [readName] at h
  split at h
  · simp at h
  · rename_i hb
    split at h
    · simp at h
    · exact rest_eq h ▸ length_lt_of_stringBody hb

/-- Reads a variant written as an object, from after its opening brace. -/
def readObject (s : List Char) : Step α :=
  match skipSpace s with
  | [] => .error (.here .endInObject [])
  | '"' :: r =>
      match v.readName r with
      | .error f => .error f
      | .ok (a, r₁) =>
          match readVariantTail r₁ with
          | .error f => .error f
          | .ok r₂ => .ok (a, r₂)
  | '\x7d' :: r => .error (.next .expectedValue ('\x7d' :: r))
  | rest => .error (.next .keyNotString rest)

theorem length_lt_of_readObject {s r : List Char} {a : α} (h : v.readObject s = .ok (a, r)) :
    r.length < s.length := by
  rw [readObject] at h
  split at h
  · simp at h
  · rename_i hs
    have := length_lt_of_skipSpace hs
    split at h
    · simp at h
    · rename_i hn
      have := v.length_lt_of_readName hn
      split at h
      · simp at h
      · rename_i ht
        have := length_lt_of_readVariantTail ht
        rw [← rest_eq h]
        omega
  · simp at h
  · simp at h

/-- Reads a variant in either form. -/
def read (s : List Char) : Step α :=
  match skipSpace s with
  | [] => .error (.next .endInValue [])
  | '"' :: r => v.readName r
  | '\x7b' :: r => v.readObject r
  | rest => .error (.next .expectedValue rest)

theorem length_lt_of_read {s r : List Char} {a : α} (h : v.read s = .ok (a, r)) :
    r.length < s.length := by
  rw [read] at h
  split at h
  · simp at h
  · rename_i hs
    have := length_lt_of_skipSpace hs
    have := v.length_lt_of_readName h
    omega
  · rename_i hs
    have := length_lt_of_skipSpace hs
    have := v.length_lt_of_readObject h
    omega
  · simp at h

/-- Reads a variant: its name, or an object with that name and null. -/
def reader : Reader α :=
  ⟨v.read, v.length_lt_of_read⟩

end Variants

end Keystroke.Json
