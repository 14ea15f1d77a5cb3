import Keystroke.Json.Number
import Keystroke.Json.Strings

/-!
Skipping a value of any kind and depth.

Skipping keeps the list of the containers that are open, the innermost first. It takes one value
at a time: a word, a number, a string or a container without members; or it opens a container and
goes on with the first member. Behind a value it closes what it can, until a comma starts the next
member or nothing is open any more.

* `Json.afterValue`: closes containers behind a value;
* `Json.skipFrom`: skips until nothing is open;
* `Json.skipValue`: skips one value, leaving a shorter text (`length_lt_of_skipValue`).
-/

namespace Keystroke.Json

/-- A kind of container. -/
inductive Container where
  | list
  | object
  deriving DecidableEq

namespace Container

/-- The character that closes a container. -/
def closer : Container → Char
  | list => ']'
  | object => '\x7d'

/-- What is wrong where the text ends inside a container. -/
def endCause : Container → Cause
  | list => .endInList
  | object => .endInObject

/-- What is wrong where a container neither goes on nor closes. -/
def separatorCause : Container → Cause
  | list => .expectedListCommaOrEnd
  | object => .expectedObjectCommaOrEnd

end Container

/-- Skips the name of a member and the colon after it. -/
def skipName (s : List Char) : Except Fault (List Char) :=
  match skipSpace s with
  | [] => .error (.next .endInObject [])
  | '"' :: r =>
      match skipString r with
      | .error f => .error f
      | .ok r' => colon r'
  | rest => .error (.next .keyNotString rest)

theorem length_lt_of_skipName {s r : List Char} (h : skipName s = .ok r) :
    r.length < s.length := by
  rw [skipName] at h
  split at h
  · simp at h
  · rename_i hs
    have := length_lt_of_skipSpace hs
    split at h
    · simp at h
    · rename_i hk
      have := length_lt_of_skipString hk
      have := length_lt_of_colon h
      omega
  · simp at h

/-- Skips to the value of the next member of a container. -/
def enterMember : Container → List Char → Except Fault (List Char)
  | .list, s => .ok s
  | .object, s => skipName s

theorem length_le_of_enterMember {k : Container} {s r : List Char}
    (h : enterMember k s = .ok r) : r.length ≤ s.length := by
  cases k with
  | list => simp_all [enterMember]
  | object => exact Nat.le_of_lt (length_lt_of_skipName h)

/-- Closes the containers that end behind a value. Gives those still open, with the text where
their next value begins; none are left when the outermost has closed. -/
def afterValue : List Container → List Char → Step (List Container)
  | [], s => .ok ([], s)
  | k :: outer, s =>
      match skipSpace s with
      | [] => .error (.next k.endCause [])
      | c :: r =>
          if c = ',' then
            match enterMember k r with
            | .error f => .error f
            | .ok r' => .ok (k :: outer, r')
          else if c = k.closer then afterValue outer r
          else .error (.next k.separatorCause (c :: r))

theorem length_le_of_afterValue {stack stack' : List Container} {s r : List Char}
    (h : afterValue stack s = .ok (stack', r)) : r.length ≤ s.length := by
  fun_induction afterValue stack s with
  | case1 => simp_all
  | case2 => simp at h
  | case3 => simp at h
  | case4 k outer s r₀ r₁ he hs =>
    have := length_lt_of_skipSpace hs
    have := length_le_of_enterMember he
    rw [← rest_eq h]
    omega
  | case5 k outer s r₀ hs _ ih =>
    have := length_lt_of_skipSpace hs
    have := ih h
    omega
  | case6 => simp at h

/-- Skips a word, a number or a string. -/
def skipScalar : List Char → Except Fault (List Char)
  | [] => .error (.next .endInValue [])
  | '"' :: r => skipString r
  | 'n' :: r => word ['u', 'l', 'l'] r
  | 't' :: r => word ['r', 'u', 'e'] r
  | 'f' :: r => word ['a', 'l', 's', 'e'] r
  | c :: r =>
      if c = '-' ∨ isDigit c then skipNumber (c :: r) else .error (.next .expectedValue (c :: r))

theorem length_lt_of_skipScalar {s r : List Char} (h : skipScalar s = .ok r) :
    r.length < s.length := by
  unfold skipScalar at h
  split at h
  · simp at h
  · have := length_lt_of_skipString h
    simp only [List.length_cons]
    omega
  · have := length_le_of_word h
    simp only [List.length_cons]
    omega
  · have := length_le_of_word h
    simp only [List.length_cons]
    omega
  · have := length_le_of_word h
    simp only [List.length_cons]
    omega
  · split at h
    · exact length_lt_of_skipNumber h
    · simp at h

/-- Goes on behind the opening of a container: a container without members is a value of its own,
any other one is open from here. -/
def openContainer (k : Container) (stack : List Container) (s : List Char) :
    Step (List Container) :=
  match skipSpace s with
  | [] => .error (.next k.endCause [])
  | c :: r =>
      if c = k.closer then afterValue stack r
      else
        match enterMember k (c :: r) with
        | .error f => .error f
        | .ok r' => .ok (k :: stack, r')

theorem length_le_of_openContainer {k : Container} {stack stack' : List Container}
    {s r : List Char} (h : openContainer k stack s = .ok (stack', r)) : r.length ≤ s.length := by
  rw [openContainer] at h
  split at h
  · simp at h
  · rename_i c r' hs
    have := length_lt_of_skipSpace hs
    split at h
    · have := length_le_of_afterValue h
      omega
    · split at h
      · simp at h
      · rename_i he
        have := length_le_of_enterMember he
        simp only [List.length_cons] at this
        rw [← rest_eq h]
        omega

/-- Takes one value, or opens one container, with the given ones around it. -/
def skipOne (stack : List Container) (s : List Char) : Step (List Container) :=
  match skipSpace s with
  | '[' :: r => openContainer .list stack r
  | '\x7b' :: r => openContainer .object stack r
  | rest =>
      match skipScalar rest with
      | .error f => .error f
      | .ok r => afterValue stack r

theorem length_lt_of_skipOne {stack stack' : List Container} {s r : List Char}
    (h : skipOne stack s = .ok (stack', r)) : r.length < s.length := by
  have hle := length_skipSpace_le s
  rw [skipOne] at h
  split at h
  · rename_i hs
    have := length_lt_of_skipSpace hs
    have := length_le_of_openContainer h
    omega
  · rename_i hs
    have := length_lt_of_skipSpace hs
    have := length_le_of_openContainer h
    omega
  · split at h
    · simp at h
    · rename_i hk
      have := length_lt_of_skipScalar hk
      have := length_le_of_afterValue h
      omega

/-- Skips values until none of the containers around them is open any more. -/
def skipFrom (stack : List Container) (s : List Char) : Except Fault (List Char) :=
  match _h : skipOne stack s with
  | .error f => .error f
  | .ok ([], r) => .ok r
  | .ok (k :: outer, r) => skipFrom (k :: outer) r
termination_by s.length
decreasing_by exact length_lt_of_skipOne _h

theorem length_lt_of_skipFrom {stack : List Container} {s r : List Char}
    (h : skipFrom stack s = .ok r) : r.length < s.length := by
  fun_induction skipFrom stack s with
  | case1 => simp at h
  | case2 stack s r' hs =>
    have := length_lt_of_skipOne hs
    simp_all
  | case3 stack s k outer r' hs ih =>
    have := length_lt_of_skipOne hs
    have := ih h
    omega

/-- Skips one value. -/
def skipValue (s : List Char) : Except Fault (List Char) :=
  skipFrom [] s

theorem length_lt_of_skipValue {s r : List Char} (h : skipValue s = .ok r) :
    r.length < s.length :=
  length_lt_of_skipFrom h

end Keystroke.Json
