import Keystroke.Numeral
import Mathlib.Data.Nat.Digits.Defs
import Mathlib.Tactic.Common

/-!
Digits of a radix, and how they are read.

* `Digit`, `Digit.text`, `Digit.total`: digits, their characters and their value;
* `digitValue?_digitChar`, `digitChar_of_digitValue?`: a character has a value if and only if it is
  a digit with that value;
* `accumulate_text_append`: reading digits adds them to the accumulator, exactly, or fails as soon
  as their value passes the largest code;
* `Reads`, `exists_reads`, `Reads.accumulate_eq`: what a text of digits comes to, by the first
  problem in it.
-/

namespace Keystroke.Numeral

/-! ### Digits -/

/-- A digit of a radix. The case matters past nine only. -/
structure Digit (radix : Nat) where
  value : Fin radix
  upper : Bool

namespace Digit

variable {radix : Nat}

/-- The character of a digit. -/
def char (d : Digit radix) : Char :=
  if d.upper then d.value.val.digitChar.toUpper else d.value.val.digitChar

/-- The text of digits. -/
def text (ds : List (Digit radix)) : List Char :=
  ds.map char

/-- The value of digits, the first of which counts most. -/
def total (ds : List (Digit radix)) : Nat :=
  Nat.ofDigits radix (ds.map fun d => d.value.val).reverse

lemma total_concat (ds : List (Digit radix)) (d : Digit radix) :
    total (ds ++ [d]) = total ds * radix + d.value := by
  simp only [total, List.map_append, List.map_cons, List.map_nil, List.reverse_append,
    List.reverse_cons, List.reverse_nil, List.nil_append, List.singleton_append, Nat.ofDigits_cons]
  rw [Nat.mul_comm, Nat.add_comm]

/-- More digits never make a value smaller. -/
lemma total_le_append (ds es : List (Digit radix)) : total ds ≤ total (ds ++ es) := by
  induction es generalizing ds with
  | nil => simp
  | cons e es ih =>
      have hpos : 1 ≤ radix := Nat.zero_lt_of_lt e.value.isLt
      calc total ds
          ≤ total ds * radix := Nat.le_mul_of_pos_right _ hpos
        _ ≤ total (ds ++ [e]) := by rw [total_concat]; exact Nat.le_add_right _ _
        _ ≤ total (ds ++ [e] ++ es) := ih _
        _ = total (ds ++ e :: es) := by simp

end Digit

open Digit (text total)

/-- Digits stand for their values in both cases. -/
lemma digitValue?_digitChar :
    ∀ v < 16, digitValue? v.digitChar = some v ∧ digitValue? v.digitChar.toUpper = some v := by
  decide

lemma toNat_le_of_le {a b : Char} (h : a ≤ b) : a.toNat ≤ b.toNat := h

/-- A character between two others has its place among those that a function lists from the first
of them on. -/
lemma eq_of_between {f : Nat → Char} {a b c : Char} {n : Nat}
    (hf : ∀ i ≤ b.toNat - a.toNat, (f (i + n)).toNat = a.toNat + i) (h : a ≤ c ∧ c ≤ b) :
    f (c.toNat - a.toNat + n) = c := by
  have hlo := toNat_le_of_le h.1
  have hhi := toNat_le_of_le h.2
  rw [← Char.toNat_inj, hf _ (by omega)]
  omega

/-- A value belongs to a digit in one of the cases. -/
lemma digitChar_of_digitValue? {c : Char} {v : Nat} (h : digitValue? c = some v) :
    v.digitChar = c ∨ v.digitChar.toUpper = c := by
  rw [digitValue?] at h
  split_ifs at h with hdec hlow hup
  · obtain rfl := Option.some.inj h
    exact .inl (eq_of_between (f := Nat.digitChar) (n := 0) (by decide) hdec)
  · obtain rfl := Option.some.inj h
    exact .inl (eq_of_between (f := Nat.digitChar) (by decide) hlow)
  · obtain rfl := Option.some.inj h
    exact .inr (eq_of_between (f := fun v => v.digitChar.toUpper) (by decide) hup)

section

variable {radix : Nat}

lemma digit?_char (h : radix ≤ 16) (d : Digit radix) : digit? radix d.char = some d.value.val := by
  obtain ⟨hlow, hup⟩ := digitValue?_digitChar d.value (by omega)
  rw [digit?, Digit.char]
  cases d.upper <;> simp [hlow, hup]

/-- A character is no digit of the radix. -/
def NoDigit (radix : Nat) (c : Char) : Prop :=
  ∀ d : Digit radix, d.char ≠ c

/-- Every other character is a digit. -/
lemma exists_char_of_digit? {c : Char} {v : Nat} (h : digit? radix c = some v) :
    ∃ d : Digit radix, d.char = c := by
  rw [digit?, Option.filter_eq_some_iff, decide_eq_true_iff] at h
  obtain ⟨hvalue, hlt⟩ := h
  rcases digitChar_of_digitValue? hvalue with hc | hc
  · exact ⟨⟨⟨v, hlt⟩, false⟩, hc⟩
  · exact ⟨⟨⟨v, hlt⟩, true⟩, hc⟩

lemma NoDigit.digit?_eq_none {c : Char} (h : NoDigit radix c) : digit? radix c = none := by
  cases hd : digit? radix c with
  | none => rfl
  | some v =>
      obtain ⟨d, hd⟩ := exists_char_of_digit? hd
      exact absurd hd (h d)

/-! ### Reading digits -/

/-- **The accumulator is exact**: behind digits it holds their value, as long as this is a code, and
reading has failed otherwise. -/
lemma accumulate_text_append (h : radix ≤ 16) (us ds : List (Digit radix)) {code : Code}
    (hcode : code.toNat = total us) (rest : List Char) :
    accumulate radix code (text ds ++ rest) =
      if total (us ++ ds) < UInt16.size then accumulate radix (.ofNat (total (us ++ ds))) rest
      else .error .tooLarge := by
  induction ds generalizing us code with
  | nil =>
      have hlt : total us < UInt16.size := hcode ▸ code.toNat_lt_size
      rw [List.append_nil, if_pos hlt, ← hcode, UInt16.ofNat_toNat]
      rfl
  | cons d ds ih =>
      have hstep : code.toNat * radix + d.value = total (us ++ [d]) := by
        rw [hcode, Digit.total_concat]
      have happend : us ++ d :: ds = us ++ [d] ++ ds := by simp
      show accumulate radix code (d.char :: (text ds ++ rest)) = _
      simp only [accumulate, digit?_char h, hstep, happend]
      split_ifs with hfits hall
      · rw [ih (us ++ [d]) (by simp), if_pos hall]
      · rw [ih (us ++ [d]) (by simp), if_neg hall]
      · exact absurd (Nat.lt_of_le_of_lt (Digit.total_le_append _ ds) ‹_›) hfits
      · rfl

/-- What a text of digits comes to: all of it is digits of a code, or its digits reach a character
that is none, or they pass the largest code whatever follows. -/
inductive Reads (radix : Nat) : List Char → Except NumeralError Code → Prop where
  | code {ds : List (Digit radix)} {n : Code} (h : total ds = n.toNat) :
      Reads radix (text ds) (.ok n)
  | invalidDigit {ds : List (Digit radix)} {c : Char} {rest : List Char} (hc : NoDigit radix c)
      (h : total ds < UInt16.size) : Reads radix (text ds ++ c :: rest) (.error .invalidDigit)
  | tooLarge {ds : List (Digit radix)} {rest : List Char} (h : UInt16.size ≤ total ds) :
      Reads radix (text ds ++ rest) (.error .tooLarge)

lemma Reads.accumulate_eq (h : radix ≤ 16) {cs : List Char} {x : Except NumeralError Code}
    (hx : Reads radix cs x) : accumulate radix 0 cs = x := by
  have hrun : ∀ (ds : List (Digit radix)) (rest : List Char),
      accumulate radix 0 (text ds ++ rest) =
        if total ds < UInt16.size then accumulate radix (.ofNat (total ds)) rest
        else .error .tooLarge :=
    fun ds rest => accumulate_text_append h [] ds rfl rest
  cases hx with
  | @code ds n hn =>
      have := hrun ds []
      rw [List.append_nil, if_pos (hn ▸ n.toNat_lt_size), hn, UInt16.ofNat_toNat] at this
      exact this
  | @invalidDigit ds c rest hc hlt =>
      rw [hrun, if_pos hlt, accumulate, hc.digit?_eq_none]
  | @tooLarge ds rest hle =>
      rw [hrun, if_neg (Nat.not_lt.mpr hle)]

/-- Every text begins with its digits. -/
lemma exists_digits (radix : Nat) (cs : List Char) :
    ∃ (ds : List (Digit radix)) (rest : List Char), cs = text ds ++ rest ∧
      ∀ c ∈ rest.head?, NoDigit radix c := by
  induction cs with
  | nil => exact ⟨[], [], rfl, by simp⟩
  | cons c cs ih =>
      by_cases hc : NoDigit radix c
      · exact ⟨[], c :: cs, rfl, by simpa using hc⟩
      · simp only [NoDigit, not_forall, not_not] at hc
        obtain ⟨d, rfl⟩ := hc
        obtain ⟨ds, rest, rfl, hrest⟩ := ih
        exact ⟨d :: ds, rest, rfl, hrest⟩

lemma exists_reads (radix : Nat) (cs : List Char) : ∃ x, Reads radix cs x := by
  obtain ⟨ds, rest, rfl, hrest⟩ := exists_digits radix cs
  by_cases hlt : total ds < UInt16.size
  · cases rest with
    | nil =>
        refine ⟨.ok (.ofNatLT (total ds) hlt), ?_⟩
        rw [List.append_nil]
        exact .code UInt16.toNat_ofNatLT.symm
    | cons c rest => exact ⟨_, .invalidDigit (hrest c rfl) hlt⟩
  · exact ⟨_, .tooLarge (Nat.not_lt.mp hlt)⟩

lemma Reads.ne_nil (h : radix ≤ 16) {cs : List Char} {e : NumeralError}
    (hx : Reads radix cs (.error e)) : cs ≠ [] := by
  rintro rfl
  cases hx.accumulate_eq h

end

end Keystroke.Numeral
