import Keystroke.Json.Mismatch
import Keystroke.Json.Skip

/-!
Records: values with named fields.

A record is written as an object with its fields in any order and other members among them, or as
an array of its fields in their own order. While it is read, the fields met so far are kept in a
draft; at the end the draft must be enough for a value.

* `Json.Field`: a field, what its value is and how a draft takes it;
* `Json.Record`: the fields of a record and what makes a draft a value;
* `Record.reader`: reads a record in either form.

A field that is missing or repeated is reported where the record ends, if its end comes next.
-/

namespace Keystroke.Json

/-- A field of a record, for drafts of type `σ`. -/
structure Field (σ : Type) where
  name : String
  /-- Whether a draft has the field already. -/
  isSet : σ → Bool
  /-- Reads a value of the field and gives what it does to a draft. -/
  value : Reader (σ → σ)

/-- A record of type `α`, with drafts of type `σ`. -/
structure Record (σ α : Type) where
  /-- What the record is called in messages. -/
  expected : String
  fields : List (Field σ)
  /-- The draft without any field. -/
  empty : σ
  /-- The value of a draft that has all it needs. -/
  finish? : σ → Option α

namespace Record

variable {σ α : Type} (k : Record σ α)

/-- What messages about arrays of a wrong length ask for. -/
def expectedElements : String :=
  k.expected ++ " with " ++ Nat.repr k.fields.length ++ " elements"

/-- The field of a name. -/
def field? (name : String) : Option (Field σ) :=
  k.fields.find? fun f => f.name = name

/-- The first field that a draft does not have. -/
def missing (draft : σ) : String :=
  ((k.fields.find? fun f => !f.isSet draft).map Field.name).getD ""

/-! ### Objects -/

/-- The text after the blanks and the brace that may come next. -/
def afterBrace (s : List Char) : List Char :=
  match skipSpace s with
  | '\x7d' :: r => r
  | rest => rest

/-- Reads a name of a member, from its opening quote on. -/
def nameFrom : List Char → Step (Option String)
  | [] => .error (.next .endInValue [])
  | '"' :: r =>
      match stringBody r with
      | .error f => .error f
      | .ok (name, r') => .ok (some (String.ofList name), r')
  | '\x7d' :: r => .error (.next .trailingComma ('\x7d' :: r))
  | rest => .error (.next .keyNotString rest)

theorem length_lt_of_nameFrom {s r : List Char} {name : Option String}
    (h : nameFrom s = .ok (name, r)) : r.length < s.length := by
  unfold nameFrom at h
  split at h
  · simp at h
  · split at h
    · simp at h
    · rename_i hb
      have := length_lt_of_stringBody hb
      rw [← rest_eq h, List.length_cons]
      omega
  · simp at h
  · simp at h

/-- Reads the name of the next member of an object, or its closing brace. A comma stands before
every member but the first. -/
def nextName (first : Bool) (s : List Char) : Step (Option String) :=
  match skipSpace s with
  | [] => .error (.next .endInObject [])
  | '\x7d' :: r => .ok (none, r)
  | c :: r =>
      if first then nameFrom (c :: r)
      else if c = ',' then nameFrom (skipSpace r)
      else .error (.next .expectedObjectCommaOrEnd (c :: r))

theorem length_lt_of_nextName {first : Bool} {s r : List Char} {name : Option String}
    (h : nextName first s = .ok (name, r)) : r.length < s.length := by
  rw [nextName] at h
  split at h
  · simp at h
  · rename_i hs
    exact rest_eq h ▸ length_lt_of_skipSpace hs
  · rename_i c r' _ hs
    have := length_lt_of_skipSpace hs
    split at h
    · have := length_lt_of_nameFrom h
      simp only [List.length_cons] at this
      omega
    · split at h
      · have := length_lt_of_nameFrom h
        have := length_skipSpace_le r'
        omega
      · simp at h

/-- Reads the colon and the value of a member by its name, into a draft. A name that is no field
has its value skipped. -/
def memberValue (draft : σ) (name : String) (s : List Char) : Step σ :=
  match k.field? name with
  | some field =>
      if field.isSet draft then .error (.here (.duplicateField field.name) (afterBrace s))
      else
        match colon s with
        | .error f => .error f
        | .ok r =>
            match field.value.run r with
            | .error f => .error f
            | .ok (set, r') => .ok (set draft, r')
  | none =>
      match colon s with
      | .error f => .error f
      | .ok r =>
          match skipValue r with
          | .error f => .error f
          | .ok r' => .ok (draft, r')

theorem length_lt_of_memberValue {draft draft' : σ} {name : String} {s r : List Char}
    (h : k.memberValue draft name s = .ok (draft', r)) : r.length < s.length := by
  rw [memberValue] at h
  split at h
  · rename_i field _
    split at h
    · simp at h
    · split at h
      · simp at h
      · rename_i hc
        have := length_lt_of_colon hc
        split at h
        · simp at h
        · rename_i hv
          have := field.value.length_lt hv
          rw [← rest_eq h]
          omega
  · split at h
    · simp at h
    · rename_i hc
      have := length_lt_of_colon hc
      split at h
      · simp at h
      · rename_i hv
        have := length_lt_of_skipValue hv
        rw [← rest_eq h]
        omega

/-- Reads the next member of an object into a draft, or the closing brace. -/
def nextMember (first : Bool) (draft : σ) (s : List Char) : Step (Option σ) :=
  match nextName first s with
  | .error f => .error f
  | .ok (none, r) => .ok (none, r)
  | .ok (some name, r) =>
      match k.memberValue draft name r with
      | .error f => .error f
      | .ok (draft', r') => .ok (some draft', r')

theorem length_lt_of_nextMember {first : Bool} {draft : σ} {draft' : Option σ} {s r : List Char}
    (h : k.nextMember first draft s = .ok (draft', r)) : r.length < s.length := by
  rw [nextMember] at h
  split at h
  · simp at h
  · rename_i hn
    exact rest_eq h ▸ length_lt_of_nextName hn
  · rename_i hn
    have := length_lt_of_nextName hn
    split at h
    · simp at h
    · rename_i hv
      have := k.length_lt_of_memberValue hv
      rw [← rest_eq h]
      omega

/-- Reads the members of an object into a draft, up to and with the closing brace. -/
def members (first : Bool) (draft : σ) (s : List Char) : Step σ :=
  match _h : k.nextMember first draft s with
  | .error f => .error f
  | .ok (none, r) => .ok (draft, r)
  | .ok (some draft', r) => members false draft' r
termination_by s.length
decreasing_by exact k.length_lt_of_nextMember _h

theorem length_lt_of_members {first : Bool} {draft draft' : σ} {s r : List Char}
    (h : k.members first draft s = .ok (draft', r)) : r.length < s.length := by
  fun_induction members k first draft s with
  | case1 => simp at h
  | case2 first draft s r' hn => exact rest_eq h ▸ k.length_lt_of_nextMember hn
  | case3 first draft s draft₁ r₁ hn ih =>
    have := ih h
    have := k.length_lt_of_nextMember hn
    omega

/-- Reads a record written as an object, from after its opening brace. -/
def readObject (s : List Char) : Step α :=
  match k.members true k.empty s with
  | .error f => .error f
  | .ok (draft, r) =>
      match k.finish? draft with
      | some a => .ok (a, r)
      | none => .error (.here (.missingField (k.missing draft)) r)

theorem length_lt_of_readObject {s r : List Char} {a : α} (h : k.readObject s = .ok (a, r)) :
    r.length < s.length := by
  rw [readObject] at h
  split at h
  · simp at h
  · rename_i hm
    split at h
    · exact rest_eq h ▸ k.length_lt_of_members hm
    · simp at h

/-! ### Arrays -/

/-- Goes on to the next element of an array. Gives none at the closing bracket, with the text after
it. A comma stands before every element but the first. -/
def nextElement (first : Bool) (s : List Char) : Except Fault (Bool × List Char) :=
  match skipSpace s with
  | [] => .error (.next .endInList [])
  | ']' :: r => .ok (false, r)
  | c :: r =>
      if first then .ok (true, c :: r)
      else if c = ',' then
        match skipSpace r with
        | [] => .error (.next .endInValue [])
        | ']' :: r' => .error (.next .trailingComma (']' :: r'))
        | rest => .ok (true, rest)
      else .error (.next .expectedListCommaOrEnd (c :: r))

theorem length_le_of_nextElement {first more : Bool} {s r : List Char}
    (h : nextElement first s = .ok (more, r)) : r.length ≤ s.length := by
  have hle := length_skipSpace_le s
  rw [nextElement] at h
  split at h
  · simp at h
  · rename_i hs
    exact rest_eq h ▸ Nat.le_of_lt (length_lt_of_skipSpace hs)
  · rename_i c r' _ hs
    have := length_lt_of_skipSpace hs
    split at h
    · rw [← rest_eq h, ← hs]
      omega
    · split at h
      · have := length_skipSpace_le r'
        split at h
        · simp at h
        · simp at h
        · rw [← rest_eq h]
          omega
      · simp at h

/-- Reads the closing bracket of an array that has all its elements. -/
def closeList (s : List Char) : Except Fault (List Char) :=
  match skipSpace s with
  | [] => .error (.next .endInList [])
  | ']' :: r => .ok r
  | ',' :: r =>
      match skipSpace r with
      | ']' :: r' => .error (.next .trailingComma (']' :: r'))
      | rest => .error (.next .trailingCharacters rest)
  | rest => .error (.next .trailingCharacters rest)

theorem length_lt_of_closeList {s r : List Char} (h : closeList s = .ok r) :
    r.length < s.length := by
  rw [closeList] at h
  split at h
  · simp at h
  · rename_i hs
    exact Except.ok.inj h ▸ length_lt_of_skipSpace hs
  · split at h <;> simp at h
  · simp at h

/-- Reads the elements of an array into a draft, one for each of the given fields, and the closing
bracket. The array may end early, after `count` elements, if the draft is enough. -/
def elements (count : Nat) : List (Field σ) → σ → List Char → Step σ
  | [], draft, s =>
      match closeList s with
      | .error f => .error f
      | .ok r => .ok (draft, r)
  | field :: fields, draft, s =>
      match nextElement (count == 0) s with
      | .error f => .error f
      | .ok (false, r) =>
          if (k.finish? draft).isSome then .ok (draft, r)
          else .error (.here (.invalidLength count k.expectedElements) r)
      | .ok (true, r) =>
          match field.value.run r with
          | .error f => .error f
          | .ok (set, r') => elements (count + 1) fields (set draft) r'

theorem length_le_of_elements {count : Nat} {fields : List (Field σ)} {draft draft' : σ}
    {s r : List Char} (h : k.elements count fields draft s = .ok (draft', r)) :
    r.length ≤ s.length := by
  fun_induction elements k count fields draft s with
  | case1 => simp at h
  | case2 count draft s r' hc =>
    exact rest_eq h ▸ Nat.le_of_lt (length_lt_of_closeList hc)
  | case3 => simp at h
  | case4 count field fields draft s r' hn _ =>
    exact rest_eq h ▸ length_le_of_nextElement hn
  | case5 => simp at h
  | case6 => simp at h
  | case7 count field fields draft s r₁ hn set r₂ hv ih =>
    have := ih h
    have := length_le_of_nextElement hn
    have := field.value.length_lt hv
    omega

/-- Reads a record written as an array, from after its opening bracket. -/
def readArray (s : List Char) : Step α :=
  match k.elements 0 k.fields k.empty s with
  | .error f => .error f
  | .ok (draft, r) =>
      match k.finish? draft with
      | some a => .ok (a, r)
      | none => .error (.here (.invalidLength k.fields.length k.expectedElements) r)

theorem length_le_of_readArray {s r : List Char} {a : α} (h : k.readArray s = .ok (a, r)) :
    r.length ≤ s.length := by
  rw [readArray] at h
  split at h
  · simp at h
  · rename_i he
    split at h
    · exact rest_eq h ▸ k.length_le_of_elements he
    · simp at h

/-! ### Either form -/

/-- Reads a record in either form. -/
def read (s : List Char) : Step α :=
  match skipSpace s with
  | [] => .error (.next .endInValue [])
  | '\x7b' :: r => k.readObject r
  | '[' :: r => k.readArray r
  | rest => .error (mismatch k.expected rest)

theorem length_lt_of_read {s r : List Char} {a : α} (h : k.read s = .ok (a, r)) :
    r.length < s.length := by
  rw [read] at h
  split at h
  · simp at h
  · rename_i hs
    have := length_lt_of_skipSpace hs
    have := k.length_lt_of_readObject h
    omega
  · rename_i hs
    have := length_lt_of_skipSpace hs
    have := k.length_le_of_readArray h
    omega
  · simp at h

/-- Reads a record: an object with its fields, or an array of them. -/
def reader : Reader α :=
  ⟨k.read, k.length_lt_of_read⟩

end Record

end Keystroke.Json
