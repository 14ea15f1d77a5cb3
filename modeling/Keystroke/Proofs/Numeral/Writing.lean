import Keystroke.Proofs.Numeral.Digits

/-!
Numerals as they are written, and what each of them is read as.

* `Lead`, `Leads`, `Signs`: what stands before the digits;
* `Written`: numerals as they are written, with their text and their value;
* `parse_cases`: what a text has behind its lead, and what it is read as;
* `parse_text`: which texts are numerals and of which code, and why each of the others is not.
-/

namespace Keystroke.Numeral

open Digit (text total)

/-! ### What stands before the digits -/

/-- What a numeral begins with. It decides the radix. -/
inductive Lead where
  | none
  | lower
  | upper
  deriving DecidableEq

namespace Lead

/-- The text of a lead. -/
def text : Lead → List Char
  | none => []
  | lower => ['0', 'x']
  | upper => ['0', 'X']

/-- The radix of the digits behind a lead. -/
def radix : Lead → Nat
  | none => 10
  | lower => 16
  | upper => 16

lemma radix_le (l : Lead) : l.radix ≤ 16 := by
  cases l <;> decide

end Lead

/-- A text begins with a lead, and this is what remains. It has none only if it begins with no
other. -/
def Leads (l : Lead) (cs rest : List Char) : Prop :=
  cs = l.text ++ rest ∧ (l = .none → ¬ Lead.lower.text <+: cs ∧ ¬ Lead.upper.text <+: cs)

/-- What remains begins with a plus sign, which is left aside, or with something else. -/
def Signs (rest digits : List Char) : Prop :=
  rest = '+' :: digits ∨ rest.head? ≠ some '+' ∧ rest = digits

lemma exists_leads (cs : List Char) : ∃ l rest, Leads l cs rest := by
  by_cases hlow : Lead.lower.text <+: cs
  · obtain ⟨rest, rfl⟩ := hlow
    exact ⟨.lower, rest, rfl, by simp⟩
  by_cases hup : Lead.upper.text <+: cs
  · obtain ⟨rest, rfl⟩ := hup
    exact ⟨.upper, rest, rfl, by simp⟩
  · exact ⟨.none, cs, rfl, fun _ => ⟨hlow, hup⟩⟩

lemma parseChars_of_leads {l : Lead} {cs rest : List Char} (h : Leads l cs rest) :
    parseChars cs = signed l.radix rest := by
  obtain ⟨rfl, hnone⟩ := h
  cases l with
  | lower => rfl
  | upper => rfl
  | none =>
      obtain ⟨hlow, hup⟩ := hnone rfl
      show parseChars rest = signed 10 rest
      unfold parseChars
      split
      · exact absurd ⟨_, rfl⟩ hlow
      · exact absurd ⟨_, rfl⟩ hup
      · rfl

lemma exists_signs (rest : List Char) : ∃ digits, Signs rest digits := by
  by_cases h : rest.head? = some '+'
  · obtain ⟨digits, rfl⟩ := List.head?_eq_some_iff.mp h
    exact ⟨digits, .inl rfl⟩
  · exact ⟨rest, .inr ⟨h, rfl⟩⟩

/-- A sign alone counts as a digit that is none, and nothing at all is a fault of its own. -/
lemma signed_of_signs {radix : Nat} {rest digits : List Char} (h : Signs rest digits) :
    signed radix rest =
      if rest = [] then .error .empty
      else if digits = [] then .error .invalidDigit
      else accumulate radix 0 digits := by
  rcases h with rfl | ⟨hhead, rfl⟩
  · cases digits with
    | nil => rfl
    | cons c digits => rfl
  · unfold signed
    split <;> simp_all

/-! ### Numerals -/

/-- A numeral as it is written: a lead, a plus sign or none, and at least one digit. -/
structure Written where
  lead : Lead
  plus : Bool
  head : Digit lead.radix
  tail : List (Digit lead.radix)

namespace Written

variable (w : Written)

/-- The digits of a numeral. -/
def digits : List (Digit w.lead.radix) :=
  w.head :: w.tail

/-- What stands behind the lead of a numeral. -/
def body : List Char :=
  (if w.plus then ['+'] else []) ++ Digit.text w.digits

/-- The text of a numeral. -/
def text : List Char :=
  w.lead.text ++ w.body

/-- The value of a numeral. -/
def value : Nat :=
  total w.digits

end Written

/-- What is no digit of any radix does not occur among digits. -/
lemma notMem_text {radix : Nat} (h : radix ≤ 16) {c : Char} (hc : digitValue? c = none)
    (ds : List (Digit radix)) : c ∉ text ds := by
  intro hmem
  obtain ⟨d, -, rfl⟩ := List.mem_map.mp hmem
  have hd := digit?_char h d
  rw [digit?, hc] at hd
  cases hd

lemma Written.leads (w : Written) : Leads w.lead w.text w.body := by
  refine ⟨rfl, fun hnone => ?_⟩
  have hbody : w.text = w.body := by rw [Written.text, hnone]; rfl
  have hnotMem : ∀ c, c ≠ '+' → digitValue? c = none → c ∉ w.body := by
    intro c hplus hc hmem
    rcases List.mem_append.mp hmem with hmem | hmem
    · cases hw : w.plus <;> simp_all
    · exact notMem_text w.lead.radix_le hc _ hmem
  rw [hbody]
  exact ⟨fun h => hnotMem 'x' (by decide) (by decide) (h.subset (by simp [Lead.text])),
    fun h => hnotMem 'X' (by decide) (by decide) (h.subset (by simp [Lead.text]))⟩

lemma Written.signs (w : Written) : Signs w.body (Digit.text w.digits) := by
  rw [Written.body]
  cases w.plus with
  | true => exact .inl rfl
  | false =>
      refine .inr ⟨fun hhead => ?_, rfl⟩
      exact notMem_text w.lead.radix_le (c := '+') (by decide) w.digits
        (List.mem_of_mem_head? hhead)

/-- A text is refused with a reason. -/
def Refused (s reason : String) : Prop :=
  ∃ e, parse s = .error e ∧ e.message s = "invalid code " ++ Text.quoted s ++ ": " ++ reason

lemma reason_inj {e f : NumeralError} (h : e.reason = f.reason) : e = f := by
  cases e <;> cases f <;> simp_all [NumeralError.reason]

lemma refused_reason_iff {s : String} {e : NumeralError} :
    Refused s e.reason ↔ parse s = .error e := by
  constructor
  · rintro ⟨f, hf, hmessage⟩
    rwa [← reason_inj ((String.append_right_inj _).mp hmessage)]
  · exact fun h => ⟨e, h, rfl⟩

section

variable {s : String} {l : Lead} {rest digits : List Char}

/-- A text with digits in it is read as what they come to. -/
lemma parse_of_reads {x : Except NumeralError Code} (hl : Leads l s.toList rest)
    (hs : Signs rest digits) (hne : digits ≠ []) (h : Reads l.radix digits x) : parse s = x := by
  have hrest : rest ≠ [] := by
    rintro rfl
    rcases hs with hs | ⟨-, rfl⟩
    · cases hs
    · exact hne rfl
  rw [parse, parseChars_of_leads hl, signed_of_signs hs, if_neg hrest, if_neg hne]
  exact h.accumulate_eq l.radix_le

/-- Behind its lead a text has nothing, a lone plus sign, or digits to be read. -/
lemma parse_cases (s : String) : ∃ l rest, Leads l s.toList rest ∧
    (rest = [] ∧ parse s = .error .empty ∨ rest = ['+'] ∧ parse s = .error .invalidDigit ∨
      ∃ digits, digits ≠ [] ∧ Signs rest digits ∧ Reads l.radix digits (parse s)) := by
  obtain ⟨l, rest, hl⟩ := exists_leads s.toList
  obtain ⟨digits, hs⟩ := exists_signs rest
  refine ⟨l, rest, hl, ?_⟩
  have hparse : parse s = signed l.radix rest := by rw [parse, parseChars_of_leads hl]
  rw [hparse]
  by_cases hne : digits = []
  · subst hne
    rcases hs with rfl | ⟨-, rfl⟩
    · exact .inr (.inl ⟨rfl, rfl⟩)
    · exact .inl ⟨rfl, rfl⟩
  · obtain ⟨x, hx⟩ := exists_reads l.radix digits
    refine .inr (.inr ⟨digits, hne, hs, ?_⟩)
    rwa [← hparse, parse_of_reads hl hs hne hx]

/-- A text that is read as a code is written as a numeral with its value. -/
lemma exists_written_of_parse {n : Code} (h : parse s = .ok n) :
    ∃ w : Written, w.text = s.toList ∧ w.value = n.toNat := by
  obtain ⟨l, rest, hl, hcases⟩ := parse_cases s
  rw [h] at hcases
  rcases hcases with ⟨-, hx⟩ | ⟨-, hx⟩ | ⟨digits, hne, hs, hreads⟩
  · cases hx
  · cases hx
  · cases hreads with
    | @code ds _ hn =>
        obtain _ | ⟨d, ds⟩ := ds
        · exact absurd rfl hne
        rcases hs with rfl | ⟨-, rfl⟩
        · exact ⟨⟨l, true, d, ds⟩, hl.1.symm, hn⟩
        · exact ⟨⟨l, false, d, ds⟩, hl.1.symm, hn⟩

lemma Written.parse_eq_ok {w : Written} {n : Code} (hw : w.text = s.toList)
    (hn : w.value = n.toNat) : parse s = .ok n :=
  parse_of_reads (hw ▸ w.leads) w.signs (by simp [digits, Digit.text]) (.code hn)

lemma parse_eq_empty_iff : parse s = .error .empty ↔ ∃ l, Leads l s.toList [] := by
  constructor
  · intro h
    obtain ⟨l, rest, hl, hcases⟩ := parse_cases s
    rw [h] at hcases
    rcases hcases with ⟨rfl, -⟩ | ⟨-, hx⟩ | ⟨digits, -, -, hreads⟩
    · exact ⟨l, hl⟩
    · cases hx
    · cases hreads
  · rintro ⟨l, hl⟩
    rw [parse, parseChars_of_leads hl]
    rfl

lemma parse_eq_invalidDigit_iff :
    parse s = .error .invalidDigit ↔ ∃ l rest, Leads l s.toList rest ∧
      (rest = ['+'] ∨ rest = ['-'] ∨
        ∃ digits, Signs rest digits ∧ Reads l.radix digits (.error .invalidDigit)) := by
  constructor
  · intro h
    obtain ⟨l, rest, hl, hcases⟩ := parse_cases s
    rw [h] at hcases
    rcases hcases with ⟨-, hx⟩ | ⟨hplus, -⟩ | ⟨digits, -, hs, hreads⟩
    · cases hx
    · exact ⟨l, rest, hl, .inl hplus⟩
    · exact ⟨l, rest, hl, .inr (.inr ⟨digits, hs, hreads⟩)⟩
  · rintro ⟨l, rest, hl, rfl | rfl | ⟨digits, hs, hreads⟩⟩
    · rw [parse, parseChars_of_leads hl]
      rfl
    · rw [parse, parseChars_of_leads hl]
      cases l <;> rfl
    · exact parse_of_reads hl hs (hreads.ne_nil l.radix_le) hreads

lemma parse_eq_tooLarge_iff :
    parse s = .error .tooLarge ↔ ∃ l rest digits, Leads l s.toList rest ∧ Signs rest digits ∧
      Reads l.radix digits (.error .tooLarge) := by
  constructor
  · intro h
    obtain ⟨l, rest, hl, hcases⟩ := parse_cases s
    rw [h] at hcases
    rcases hcases with ⟨-, hx⟩ | ⟨-, hx⟩ | ⟨digits, -, hs, hreads⟩
    · cases hx
    · cases hx
    · exact ⟨l, rest, digits, hl, hs, hreads⟩
  · rintro ⟨l, rest, digits, hl, hs, hreads⟩
    exact parse_of_reads hl hs (hreads.ne_nil l.radix_le) hreads

end

/-- **Numerals**: a text is read as a code exactly if it is written as a numeral with that value.
Any other text is refused for the first problem met from left to right: nothing remains behind the
lead, a character that is no digit comes up, or the digits so far pass the largest code.  Behind
digits of a code the accumulator holds exactly their value. -/
theorem parse_text (s : String) :
    (∀ n, parse s = .ok n ↔ ∃ w : Written, w.text = s.toList ∧ w.value = n.toNat) ∧
      (Refused s "cannot parse integer from empty string" ↔ ∃ l, Leads l s.toList []) ∧
      (Refused s "invalid digit found in string" ↔ ∃ l rest, Leads l s.toList rest ∧
        (rest = ['+'] ∨ rest = ['-'] ∨
          ∃ digits, Signs rest digits ∧ Reads l.radix digits (.error .invalidDigit))) ∧
      (Refused s "number too large to fit in target type" ↔
        ∃ l rest digits, Leads l s.toList rest ∧ Signs rest digits ∧
          Reads l.radix digits (.error .tooLarge)) ∧
      ((¬ ∃ w : Written, w.text = s.toList ∧ w.value < UInt16.size) →
        ∃ e : NumeralError, Refused s e.reason) ∧
      ∀ (l : Lead) (ds : List (Digit l.radix)) (rest : List Char), total ds < UInt16.size →
        ∃ code : Code, code.toNat = total ds ∧
          accumulate l.radix 0 (Digit.text ds ++ rest) = accumulate l.radix code rest := by
  refine ⟨fun n => ⟨exists_written_of_parse, ?_⟩, ?_, ?_, ?_, fun hnone => ?_,
    fun l ds rest hlt => ?_⟩
  · rintro ⟨w, hw, hn⟩
    exact w.parse_eq_ok hw hn
  · exact refused_reason_iff.trans parse_eq_empty_iff
  · exact refused_reason_iff.trans parse_eq_invalidDigit_iff
  · exact refused_reason_iff.trans parse_eq_tooLarge_iff
  · cases h : parse s with
    | error e => exact ⟨e, refused_reason_iff.mpr h⟩
    | ok n =>
        obtain ⟨w, hw, hn⟩ := exists_written_of_parse h
        exact absurd ⟨w, hw, hn ▸ n.toNat_lt_size⟩ hnone
  · refine ⟨.ofNat (total ds), UInt16.toNat_ofNat_of_lt hlt, ?_⟩
    rw [accumulate_text_append l.radix_le [] ds rfl, List.nil_append, if_pos hlt]

/-- The last code with a sign and more noughts than it needs; a lead and nothing behind it; and what
is met first where a letter and too many digits come together. -/
theorem parse_text_edges :
    parse "0x+00fFfF" = .ok 0xffff ∧
      Refused "0X" "cannot parse integer from empty string" ∧
      Refused "6553z6" "invalid digit found in string" ∧
      Refused "65536z" "number too large to fit in target type" ∧
      (∃ e : NumeralError, Refused "" e.reason) ∧
      ∃ code : Code, code.toNat = 65 ∧
        accumulate 10 0 ['6', '5', 'z'] = accumulate 10 code ['z'] := by
  refine ⟨((parse_text _).1 _).mpr ?_, (parse_text _).2.1.mpr ?_, (parse_text _).2.2.1.mpr ?_,
    (parse_text _).2.2.2.1.mpr ?_, (parse_text _).2.2.2.2.1 ?_, ?_⟩
  · let ds : List (Digit 16) :=
      [⟨0, false⟩, ⟨15, false⟩, ⟨15, true⟩, ⟨15, false⟩, ⟨15, true⟩]
    exact ⟨⟨.lower, true, (⟨0, false⟩ : Digit 16), ds⟩, by decide, by decide⟩
  · exact ⟨.upper, by decide, by decide⟩
  · have hz : NoDigit 10 'z' := by
      rintro ⟨value, upper⟩
      decide +revert
    have hlt : total ([⟨6, false⟩, ⟨5, false⟩, ⟨5, false⟩, ⟨3, false⟩] : List (Digit 10)) <
        UInt16.size := by decide
    exact ⟨.none, "6553z6".toList, ⟨rfl, by decide⟩,
      .inr (.inr ⟨_, .inr ⟨by decide, rfl⟩, @Reads.invalidDigit 10 _ 'z' ['6'] hz hlt⟩)⟩
  · have hle : UInt16.size ≤ total
        ([⟨6, false⟩, ⟨5, false⟩, ⟨5, false⟩, ⟨3, false⟩, ⟨6, false⟩] : List (Digit 10)) := by
      decide
    exact ⟨.none, "65536z".toList, _, ⟨rfl, by decide⟩, .inr ⟨by decide, rfl⟩,
      @Reads.tooLarge 10 _ ['z'] hle⟩
  · rintro ⟨w, hw, -⟩
    simp [Written.text, Written.body, Written.digits, Digit.text] at hw
  · exact (parse_text "").2.2.2.2.2 .none
      ([⟨6, false⟩, ⟨5, false⟩] : List (Digit 10)) ['z'] (by decide)

end Keystroke.Numeral
