import Keystroke.Json.Number
import Keystroke.Proofs.Json.Document

/-!
Numbers of a document, read and valued.

* `Ends`: what may follow a number for it to be read as it stands;
* `read_text`: a number is read as it is written, so `skipNumber_text`;
* `value_literal_eq_natural_iff`: the numbers that are valued as natural numbers.
-/

namespace Keystroke.Json

/-! ### Digits -/

lemma isDigit_char (d : Digit) : isDigit d.char = true := by
  decide +revert

lemma digitValue_char (d : Digit) : digitValue d.char = d.val := by
  decide +revert

/-- A text that does not go on with a digit. -/
def EndsDigits (rest : List Char) : Prop :=
  ∀ c ∈ rest.head?, isDigit c = false

lemma takeWhile_isDigit {rest : List Char} (h : EndsDigits rest) :
    rest.takeWhile isDigit = [] := by
  cases rest with
  | nil => rfl
  | cons c r => simp [h c (by simp)]

lemma digitsOf_append (ds : List Digit) {rest : List Char} (h : EndsDigits rest) :
    digitsOf (ds.map Digit.char ++ rest) = ds.map Digit.char := by
  rw [digitsOf, List.takeWhile_append_of_pos, takeWhile_isDigit h, List.append_nil]
  simp [isDigit_char]

lemma afterDigits_append (ds : List Digit) {rest : List Char} (h : EndsDigits rest) :
    afterDigits (ds.map Digit.char ++ rest) = rest := by
  have hsplit := digitsOf_append_afterDigits (ds.map Digit.char ++ rest)
  rw [digitsOf_append ds h] at hsplit
  exact List.append_cancel_left hsplit

/-! ### Literals -/

/-- A text that ends a number in front of it. -/
def Ends (rest : List Char) : Prop :=
  ∀ c ∈ rest.head?, isDigit c = false ∧ c ≠ '.' ∧ c ≠ 'e' ∧ c ≠ 'E'

lemma Ends.nil : Ends [] := by
  simp [Ends]

lemma Ends.endsDigits {rest : List Char} (h : Ends rest) : EndsDigits rest :=
  fun c hc => (h c hc).1

lemma readWhole_text (w : Whole) {rest : List Char} (h : EndsDigits rest) :
    Literal.readWhole (w.text ++ rest) = .ok (w.text, rest) := by
  obtain ⟨⟨d, ds⟩, hw⟩ := w
  by_cases hd : d = 0
  · obtain rfl : ds = [] := hw hd
    subst hd
    show Literal.readWhole ('0' :: rest) = .ok (['0'], rest)
    cases rest with
    | nil => rfl
    | cons c r =>
        have hc : isDigit c = false := h c (by simp)
        simp [Literal.readWhole, hc]
  · have hne : Digit.char d ≠ '0' := by
      clear hw
      decide +revert
    show Literal.readWhole (d.char :: (ds.map Digit.char ++ rest))
      = .ok (d.char :: ds.map Digit.char, rest)
    simp [Literal.readWhole, hne, isDigit_char, digitsOf_append ds h, afterDigits_append ds h]

lemma readFraction_text (f : Option Digits) {rest : List Char} (h : EndsDigits rest)
    (hpoint : f = none → rest.head? ≠ some '.') :
    Literal.readFraction ((f.elim [] fun ds => '.' :: ds.text) ++ rest)
      = .ok (f.map Digits.text, rest) := by
  cases f with
  | none =>
      have hp := hpoint rfl
      show Literal.readFraction rest = .ok (none, rest)
      unfold Literal.readFraction
      split <;> simp_all
  | some ds =>
      have hd : digitsOf (ds.text ++ rest) = ds.text := digitsOf_append ds.toList h
      have ha : afterDigits (ds.text ++ rest) = rest := afterDigits_append ds.toList h
      show Literal.readFraction ('.' :: (ds.text ++ rest)) = .ok (some ds.text, rest)
      unfold Literal.readFraction
      simp only [hd, ha]
      rfl

lemma readExponentDigits_text (ds : Digits) {rest : List Char} (h : EndsDigits rest) :
    Literal.readExponentDigits (ds.text ++ rest) = .ok (ds.text, rest) := by
  obtain ⟨d, ds⟩ := ds
  show Literal.readExponentDigits (d.char :: (ds.map Digit.char ++ rest))
    = .ok (d.char :: ds.map Digit.char, rest)
  rw [Literal.readExponentDigits, if_pos (isDigit_char d), digitsOf_append ds h,
    afterDigits_append ds h]

lemma readSign_text (sign : Option Bool) (ds : Digits) (rest : List Char) :
    Literal.readSign ((sign.elim [] fun minus => [if minus then '-' else '+'])
      ++ (ds.text ++ rest)) = (sign.getD false, ds.text ++ rest) := by
  rcases sign with _ | _ | _
  · obtain ⟨d, ds⟩ := ds
    have hd : d.char ≠ '+' ∧ d.char ≠ '-' := by
      decide +revert
    show Literal.readSign (d.char :: (ds.map Digit.char ++ rest))
      = (false, d.char :: (ds.map Digit.char ++ rest))
    unfold Literal.readSign
    split <;> simp_all
  · rfl
  · rfl

lemma readExponent_text (e : Option Exponent) {rest : List Char} (h : Ends rest) :
    Literal.readExponent (e.elim [] Exponent.text ++ rest)
      = .ok (e.map fun e => (e.sign.getD false, e.digits.text), rest) := by
  cases e with
  | none =>
      cases rest with
      | nil => rfl
      | cons c r =>
          obtain ⟨-, -, he, hE⟩ := h c (by simp)
          show Literal.readExponent (c :: r) = .ok (none, c :: r)
          simp [Literal.readExponent, he, hE]
  | some e =>
      have hs := readSign_text e.sign e.digits rest
      have hd := readExponentDigits_text e.digits h.endsDigits
      have hc : (if e.upper then 'E' else 'e') = 'e' ∨ (if e.upper then 'E' else 'e') = 'E' := by
        cases e.upper <;> simp
      show Literal.readExponent (e.text ++ rest)
        = .ok (some (e.sign.getD false, e.digits.text), rest)
      rw [Exponent.text, List.cons_append, List.append_assoc, Literal.readExponent, if_pos hc, hs,
        hd]

/-- A number as it is read. -/
def NumberText.literal (n : NumberText) : Literal where
  negative := n.negative
  whole := n.whole.text
  fraction := n.fraction.map Digits.text
  exponent := n.exponent.map fun e => (e.sign.getD false, e.digits.text)

/-- What follows the digits behind the point goes on with neither a digit nor a point. -/
lemma endsDigits_exponentText (e : Option Exponent) {rest : List Char} (h : Ends rest) :
    EndsDigits (e.elim [] Exponent.text ++ rest) ∧
      (e.elim [] Exponent.text ++ rest).head? ≠ some '.' := by
  cases e with
  | none => exact ⟨h.endsDigits, fun hp => (h '.' (by simpa using hp)).2.1 rfl⟩
  | some e =>
      constructor
      · intro c hc
        obtain rfl : (if e.upper then 'E' else 'e') = c := by simpa [Exponent.text] using hc
        cases e.upper <;> decide
      · cases he : e.upper <;> simp [Exponent.text, he]

/-- What follows the digits before the point does not go on with a digit. -/
lemma endsDigits_tailText (n : NumberText) {rest : List Char} (h : Ends rest) :
    EndsDigits (n.tailText ++ rest) := by
  rw [NumberText.tailText, List.append_assoc]
  cases n.fraction with
  | none => exact (endsDigits_exponentText n.exponent h).1
  | some ds =>
      intro c hc
      obtain rfl : '.' = c := by simpa using hc
      decide

lemma readUnsigned_text (n : NumberText) (b : Bool) {rest : List Char} (h : Ends rest) :
    Literal.readUnsigned b (n.whole.text ++ (n.tailText ++ rest))
      = .ok ({ n.literal with negative := b }, rest) := by
  obtain ⟨hdigits, hpoint⟩ := endsDigits_exponentText n.exponent h
  rw [Literal.readUnsigned, readWhole_text n.whole (endsDigits_tailText n h), NumberText.tailText,
    List.append_assoc]
  simp only [readFraction_text n.fraction hdigits fun _ => hpoint, readExponent_text n.exponent h]
  rfl

/-- **Reading numbers**: a number is read as it is written. -/
theorem read_text (n : NumberText) {rest : List Char} (h : Ends rest) :
    Literal.read (n.text ++ rest) = .ok (n.literal, rest) := by
  have hu := fun b => readUnsigned_text n b h
  rw [NumberText.text, List.append_assoc, List.append_assoc]
  cases hn : n.negative with
  | true =>
      show Literal.readUnsigned true (n.whole.text ++ (n.tailText ++ rest)) = .ok (n.literal, rest)
      rw [hu, ← hn]
      rfl
  | false =>
      have hd : Digit.char n.whole.head ≠ '-' := by
        generalize n.whole.head = d
        decide +revert
      show Literal.read (n.whole.text ++ (n.tailText ++ rest)) = .ok (n.literal, rest)
      unfold Literal.read
      split
      · rename_i r hr
        exact absurd (List.cons.inj hr).1 hd
      · rw [hu, ← hn]
        rfl

lemma skipNumber_text (n : NumberText) {rest : List Char} (h : Ends rest) :
    skipNumber (n.text ++ rest) = .ok rest := by
  rw [skipNumber, read_text n h]

/-! ### Values -/

lemma le_foldl_digits (ds : List Digit) (m : Nat) :
    m ≤ ds.foldl (fun n d => n * 10 + d.val) m := by
  induction ds generalizing m with
  | nil => exact Nat.le_refl m
  | cons d ds ih =>
      have h := ih (m * 10 + d.val)
      rw [List.foldl_cons]
      omega

/-- All digits are in the significand if and only if their value stays below `2 ^ 64`. -/
lemma significand_eq_iff (ds : List Digit) {m k : Nat} (hm : m < UInt64.size) :
    significand m (ds.map Digit.char) = (k, 0) ↔
      ds.foldl (fun n d => n * 10 + d.val) m = k ∧ k < UInt64.size := by
  induction ds generalizing m with
  | nil =>
      show (m, 0) = (k, 0) ↔ m = k ∧ k < UInt64.size
      constructor
      · rintro ⟨⟩
        exact ⟨rfl, hm⟩
      · rintro ⟨rfl, -⟩
        rfl
  | cons d ds ih =>
      rw [List.map_cons, significand, digitValue_char, List.foldl_cons]
      by_cases hlt : m * 10 + d.val < UInt64.size
      · rw [if_pos hlt]
        exact ih hlt
      · rw [if_neg hlt]
        have hle := le_foldl_digits ds (m * 10 + d.val)
        constructor
        · intro h
          exact absurd (congrArg Prod.snd h) (Nat.succ_ne_zero _)
        · rintro ⟨rfl, hk⟩
          omega

lemma scaled_ne_natural (b : Bool) (m : Nat) (e : Int) (rest : List Char) (k : Nat) :
    Literal.scaled b m e rest ≠ .ok (.natural k) := by
  rw [Literal.scaled]
  split <;> simp

lemma wholeValue_eq_natural_iff {b : Bool} {m k : Nat} {rest : List Char} :
    Literal.wholeValue b m rest = .ok (.natural k) ↔ b = false ∧ m = k := by
  cases b with
  | false => simp [Literal.wholeValue]
  | true =>
      simp only [Literal.wholeValue, Bool.not_true, Bool.false_eq_true, if_false,
        Bool.true_eq_false, false_and, iff_false]
      split
      · simp
      · exact scaled_ne_natural _ _ _ _ _

/-- A literal is valued as a natural number if it has neither sign nor point nor exponent and all
its digits are in the significand. -/
lemma value_eq_natural_iff {l : Literal} {rest : List Char} {k : Nat} :
    l.value rest = .ok (.natural k) ↔
      l.negative = false ∧ l.fraction = none ∧ l.exponent = none ∧
        significand 0 l.whole = (k, 0) := by
  obtain ⟨negative, whole, fraction, exponent⟩ := l
  cases exponent with
  | some e =>
      refine ⟨fun h => ?_, fun h => absurd h.2.2.1 (by simp)⟩
      rw [Literal.value] at h
      dsimp only at h
      split at h
      · exact absurd h (scaled_ne_natural _ _ _ _ _)
      · by_cases hz : (Literal.parts ⟨negative, whole, fraction, some e⟩).1 ≠ 0 ∧ !e.1
        · rw [if_pos hz] at h
          simp at h
        · rw [if_neg hz] at h
          simp at h
  | none =>
      cases fraction with
      | some ds =>
          refine ⟨fun h => ?_, fun h => absurd h.2.1 (by simp)⟩
          exact absurd h (scaled_ne_natural _ _ _ _ _)
      | none =>
          cases hp : significand 0 whole with
          | mk m dropped =>
              simp only [Literal.value, Literal.parts, hp, Option.isNone_none, Bool.true_and,
                true_and, Prod.mk.injEq]
              by_cases hd : dropped = 0
              · simp [hd, wholeValue_eq_natural_iff]
              · have hd' : (dropped == 0) = false := by simpa using hd
                simp [hd, hd', scaled_ne_natural]

/-- **Natural numbers**: the numbers without sign, point and exponent whose value stays below
`2 ^ 64`. -/
theorem value_literal_eq_natural_iff {n : NumberText} {rest : List Char} {k : Nat} :
    n.literal.value rest = .ok (.natural k) ↔ n.IsPlain ∧ n.whole.value = k ∧ k < UInt64.size := by
  have hs : significand 0 n.whole.text = (k, 0) ↔ n.whole.value = k ∧ k < UInt64.size :=
    significand_eq_iff n.whole.toList (by decide)
  rw [value_eq_natural_iff]
  simp only [NumberText.literal, hs, Option.map_eq_none_iff]
  constructor
  · rintro ⟨hneg, hfrac, hexp, hv⟩
    exact ⟨⟨hneg, hfrac, hexp⟩, hv⟩
  · rintro ⟨⟨hneg, hfrac, hexp⟩, hv⟩
    exact ⟨hneg, hfrac, hexp, hv⟩

end Keystroke.Json
