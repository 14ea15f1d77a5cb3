import Keystroke.Proofs.Json.Skipping

/-!
Reading a text with more text behind it.

A step that has read a value does not look at what follows the value, and so gives the same value
where more follows. Numbers are the exception: they end only where something else begins, so that
some of the text must be left behind them.

* `skipSpace_extend`, `colon_extend`, `word_extend`: between tokens;
* `stringBody_extend`, `skipString_extend`: strings;
* `Literal.read_extend`, `skipNumber_extend`: numbers;
* `afterValue_extend`, `skipValue_extend`: values that are skipped.
-/

namespace Keystroke.Json

variable {s r : List Char}

/-- What has something left at its end is something. -/
lemma ne_nil_of_length_le (hr : r ≠ []) (h : r.length ≤ s.length) : s ≠ [] := by
  rintro rfl
  exact hr (List.eq_nil_of_length_eq_zero (Nat.le_zero.mp h))

/-! ### Between tokens -/

lemma skipSpace_extend {c : Char} (h : skipSpace s = c :: r) (t : List Char) :
    skipSpace (s ++ t) = c :: (r ++ t) := by
  rw [skipSpace] at h
  rw [skipSpace, List.dropWhile_append, h]
  rfl

lemma skipSpace_append_of_nil (h : skipSpace s = []) (t : List Char) :
    skipSpace (s ++ t) = skipSpace t := by
  rw [skipSpace] at h
  rw [skipSpace, List.dropWhile_append, h]
  rfl

lemma colon_extend (h : colon s = .ok r) (t : List Char) : colon (s ++ t) = .ok (r ++ t) := by
  rw [colon] at h
  split at h
  · simp at h
  · rename_i hs
    obtain rfl := Except.ok.inj h
    rw [colon, skipSpace_extend hs]
    rfl
  · simp at h

lemma word_extend {letters : List Char} (h : word letters s = .ok r) (t : List Char) :
    word letters (s ++ t) = .ok (r ++ t) := by
  fun_induction word letters s with
  | case1 =>
      obtain rfl := Except.ok.inj h
      rfl
  | case2 => simp at h
  | case3 expected more r' ih => simp [word, ih h]
  | case4 => simp at h

/-! ### Strings -/

lemma hexQuad_extend {n : Nat} (h : hexQuad s = .ok (n, r)) (t : List Char) :
    hexQuad (s ++ t) = .ok (n, r ++ t) := by
  unfold hexQuad at h
  split at h
  · rename_i a b c d r'
    split at h
    · rename_i hq
      obtain ⟨rfl, rfl⟩ := Prod.mk.inj (Except.ok.inj h)
      show hexQuad (a :: b :: c :: d :: (r' ++ t)) = _
      simp only [hexQuad, hq]
    · simp at h
  · simp at h

lemma trailingEscape_extend {n : Nat} {c : Char} (h : trailingEscape n s = .ok (c, r))
    (t : List Char) : trailingEscape n (s ++ t) = .ok (c, r ++ t) := by
  unfold trailingEscape at h
  split at h
  · simp at h
  · simp at h
  · rename_i r'
    split at h
    · simp at h
    · rename_i hq
      split at h
      · rename_i htrailing
        obtain ⟨rfl, rfl⟩ := Prod.mk.inj (Except.ok.inj h)
        show trailingEscape n ('\\' :: 'u' :: (r' ++ t)) = _
        simp only [trailingEscape, hexQuad_extend hq, htrailing, if_true]
      · simp at h
  · simp at h
  · simp at h

lemma unicodeEscape_extend {c : Char} (h : unicodeEscape s = .ok (c, r)) (t : List Char) :
    unicodeEscape (s ++ t) = .ok (c, r ++ t) := by
  rw [unicodeEscape] at h
  split at h
  · simp at h
  · rename_i hq
    rw [unicodeEscape, hexQuad_extend hq]
    split_ifs at h with htrailing hleading
    · simp only [htrailing, hleading, if_true]
      exact trailingEscape_extend h t
    · obtain ⟨rfl, rfl⟩ := Prod.mk.inj (Except.ok.inj h)
      simp [htrailing, hleading]

lemma escape_extend {c : Char} (h : escape s = .ok (c, r)) (t : List Char) :
    escape (s ++ t) = .ok (c, r ++ t) := by
  unfold escape at h
  split at h
  · simp at h
  · exact unicodeEscape_extend h t
  · rename_i d r' _
    split at h
    · rename_i hd
      obtain ⟨rfl, rfl⟩ := Prod.mk.inj (Except.ok.inj h)
      show escape (d :: (r' ++ t)) = _
      simp [escape, hd]
    · simp at h

lemma skipEscape_extend (h : skipEscape s = .ok r) (t : List Char) :
    skipEscape (s ++ t) = .ok (r ++ t) := by
  unfold skipEscape at h
  split at h
  · simp at h
  · rename_i r'
    split at h
    · simp at h
    · rename_i hq
      obtain rfl := Except.ok.inj h
      show skipEscape ('u' :: (r' ++ t)) = _
      simp only [skipEscape, hexQuad_extend hq]
  · rename_i d r' _
    split at h
    · rename_i hd
      obtain rfl := Except.ok.inj h
      show skipEscape (d :: (r' ++ t)) = _
      simp [skipEscape, hd]
    · simp at h

/-- A string ends with its quote. -/
lemma stringBody_extend {cs : List Char} (h : stringBody s = .ok (cs, r)) (t : List Char) :
    stringBody (s ++ t) = .ok (cs, r ++ t) := by
  fun_induction stringBody s generalizing cs r with
  | case1 => simp at h
  | case2 r' =>
    obtain ⟨rfl, rfl⟩ := Prod.mk.inj (Except.ok.inj h)
    show stringBody ('"' :: (r' ++ t)) = _
    rw [stringBody]
  | case3 => simp at h
  | case4 => simp at h
  | case5 r' c r₁ he cs' r₂ hs ih =>
    obtain ⟨rfl, rfl⟩ := Prod.mk.inj (Except.ok.inj h)
    exact (readsThen_escape (escape_extend he t) _ _).mpr ⟨cs', rfl, ih hs⟩
  | case6 => simp at h
  | case7 => simp at h
  | case8 c r' hquote hbackslash hcontrol cs' r₂ hs ih =>
    obtain ⟨rfl, rfl⟩ := Prod.mk.inj (Except.ok.inj h)
    have hplain : 0x20 ≤ c.toNat := by simpa [isControl] using hcontrol
    exact (readsThen_plain ⟨c, hplain, hquote, hbackslash⟩ _ _ _).mpr ⟨cs', rfl, ih hs⟩

lemma skipString_extend (h : skipString s = .ok r) (t : List Char) :
    skipString (s ++ t) = .ok (r ++ t) := by
  fun_induction skipString s with
  | case1 => simp at h
  | case2 r' =>
    obtain rfl := Except.ok.inj h
    show skipString ('"' :: (r' ++ t)) = _
    rw [skipString]
  | case3 => simp at h
  | case4 r' r₁ he ih => exact (skipString_escape (skipEscape_extend he t)).trans (ih h)
  | case5 => simp at h
  | case6 c r' hquote hbackslash hcontrol ih =>
    have hplain : 0x20 ≤ c.toNat := by simpa [isControl] using hcontrol
    exact (skipString_plain ⟨c, hplain, hquote, hbackslash⟩ _).trans (ih h)

/-! ### Numbers -/

/-- Digits that something stands behind end there. -/
lemma digitsOf_extend (h : afterDigits s ≠ []) (t : List Char) :
    digitsOf (s ++ t) = digitsOf s ∧ afterDigits (s ++ t) = afterDigits s ++ t := by
  have hafter : afterDigits (s ++ t) = afterDigits s ++ t := by
    rw [afterDigits] at h
    rw [afterDigits, List.dropWhile_append, if_neg (by simpa using h)]
    rfl
  refine ⟨?_, hafter⟩
  have hs := digitsOf_append_afterDigits s
  have hst := digitsOf_append_afterDigits (s ++ t)
  rw [hafter, ← List.append_assoc] at hst
  exact List.append_cancel_right ((List.append_cancel_right hst).trans hs.symm)

namespace Literal

lemma readWhole_extend {ds : List Char} (h : readWhole s = .ok (ds, r)) (hr : r ≠ [])
    (t : List Char) : readWhole (s ++ t) = .ok (ds, r ++ t) := by
  unfold readWhole at h
  split at h
  · simp at h
  · rename_i c r'
    split_ifs at h with hc
    obtain ⟨rfl, rfl⟩ := Prod.mk.inj (Except.ok.inj h)
    show readWhole ('0' :: c :: (r' ++ t)) = _
    simp [readWhole, hc]
  · rename_i c r' hzero
    split_ifs at h with hc
    obtain ⟨rfl, rfl⟩ := Prod.mk.inj (Except.ok.inj h)
    obtain ⟨hdigits, hafter⟩ := digitsOf_extend hr t
    -- a nought that stands alone would have nothing behind it
    have hne : c ≠ '0' := by
      rintro rfl
      cases r' with
      | nil => exact hr rfl
      | cons d r'' => exact hzero d r'' rfl rfl
    show readWhole (c :: (r' ++ t)) = _
    rw [readWhole, if_pos hc, hdigits, hafter]
    exact fun _ _ h0 => absurd h0 hne

lemma readFraction_extend {f : Option (List Char)} (h : readFraction s = .ok (f, r)) (hr : r ≠ [])
    (t : List Char) : readFraction (s ++ t) = .ok (f, r ++ t) := by
  unfold readFraction at h
  split at h
  · rename_i r'
    split at h
    · split at h <;> simp at h
    · rename_i digits hdigits
      obtain ⟨rfl, rfl⟩ := Prod.mk.inj (Except.ok.inj h)
      obtain ⟨hd, ha⟩ := digitsOf_extend hr t
      show readFraction ('.' :: (r' ++ t)) = _
      unfold readFraction
      simp only [hd, ha]
  · rename_i s' hpoint
    obtain ⟨rfl, rfl⟩ := Prod.mk.inj (Except.ok.inj h)
    obtain ⟨c, r', rfl⟩ := List.exists_cons_of_ne_nil hr
    have hne : c ≠ '.' := fun hc => hpoint r' (by rw [hc])
    show readFraction (c :: (r' ++ t)) = _
    simp [readFraction, hne]

lemma readSign_extend (h : s ≠ []) (t : List Char) :
    readSign (s ++ t) = ((readSign s).1, (readSign s).2 ++ t) := by
  obtain ⟨c, r', rfl⟩ := List.exists_cons_of_ne_nil h
  show readSign (c :: (r' ++ t)) = _
  by_cases hplus : c = '+'
  · subst hplus
    rfl
  by_cases hminus : c = '-'
  · subst hminus
    rfl
  · simp [readSign, hplus, hminus]

lemma readExponentDigits_extend {ds : List Char} (h : readExponentDigits s = .ok (ds, r))
    (hr : r ≠ []) (t : List Char) : readExponentDigits (s ++ t) = .ok (ds, r ++ t) := by
  unfold readExponentDigits at h
  split at h
  · simp at h
  · rename_i c r'
    split_ifs at h with hc
    obtain ⟨rfl, rfl⟩ := Prod.mk.inj (Except.ok.inj h)
    obtain ⟨hd, ha⟩ := digitsOf_extend hr t
    show readExponentDigits (c :: (r' ++ t)) = _
    rw [readExponentDigits, if_pos hc, hd, ha]

lemma readExponent_extend {e : Option (Bool × List Char)} (h : readExponent s = .ok (e, r))
    (hr : r ≠ []) (t : List Char) : readExponent (s ++ t) = .ok (e, r ++ t) := by
  unfold readExponent at h
  split at h
  · obtain ⟨rfl, rfl⟩ := Prod.mk.inj (Except.ok.inj h)
    exact absurd rfl hr
  · rename_i c r'
    show readExponent (c :: (r' ++ t)) = _
    split_ifs at h with hc
    · split at h
      · simp at h
      · rename_i digits r'' hd
        obtain ⟨rfl, rfl⟩ := Prod.mk.inj (Except.ok.inj h)
        have hne : r' ≠ [] := by
          rintro rfl
          cases hd
        rw [readExponent, if_pos hc, readSign_extend hne,
          readExponentDigits_extend hd hr]
    · obtain ⟨rfl, rfl⟩ := Prod.mk.inj (Except.ok.inj h)
      rw [readExponent, if_neg hc]
      rfl

lemma readUnsigned_extend {b : Bool} {l : Literal} (h : readUnsigned b s = .ok (l, r))
    (hr : r ≠ []) (t : List Char) : readUnsigned b (s ++ t) = .ok (l, r ++ t) := by
  rw [readUnsigned] at h
  split at h
  · simp at h
  · rename_i whole r₁ hw
    split at h
    · simp at h
    · rename_i fraction r₂ hf
      split at h
      · simp at h
      · rename_i exponent r₃ he
        obtain ⟨rfl, rfl⟩ := Prod.mk.inj (Except.ok.inj h)
        have hr₂ := ne_nil_of_length_le hr (length_le_of_readExponent he)
        have hr₁ := ne_nil_of_length_le hr₂ (length_le_of_readFraction hf)
        rw [readUnsigned, readWhole_extend hw hr₁]
        simp only [readFraction_extend hf hr₂, readExponent_extend he hr]

/-- A number ends where something else begins. -/
lemma read_extend {l : Literal} (h : read s = .ok (l, r)) (hr : r ≠ []) (t : List Char) :
    read (s ++ t) = .ok (l, r ++ t) := by
  unfold read at h
  split at h
  · exact readUnsigned_extend h hr t
  · rename_i hminus
    cases s with
    | nil => cases h
    | cons c s =>
        have hne : c ≠ '-' := fun hc => hminus s (by rw [hc])
        show read (c :: (s ++ t)) = _
        rw [read]
        · exact readUnsigned_extend h hr t
        · exact fun _ hc => absurd (List.cons.inj hc).1 hne

end Literal

lemma skipNumber_extend (h : skipNumber s = .ok r) (hr : r ≠ []) (t : List Char) :
    skipNumber (s ++ t) = .ok (r ++ t) := by
  rw [skipNumber] at h
  split at h
  · simp at h
  · rename_i hl
    obtain rfl := Except.ok.inj h
    rw [skipNumber, Literal.read_extend hl hr]

/-! ### Values that are skipped -/

lemma skipName_extend (h : skipName s = .ok r) (t : List Char) :
    skipName (s ++ t) = .ok (r ++ t) := by
  rw [skipName] at h
  split at h
  · simp at h
  · rename_i hs
    split at h
    · simp at h
    · rename_i hk
      rw [skipName, skipSpace_extend hs]
      simp only [skipString_extend hk]
      exact colon_extend h t
  · simp at h

lemma enterMember_extend {k : Container} (h : enterMember k s = .ok r) (t : List Char) :
    enterMember k (s ++ t) = .ok (r ++ t) := by
  cases k with
  | list =>
      obtain rfl := Except.ok.inj h
      rfl
  | object => exact skipName_extend h t

lemma afterValue_extend {stack stack' : List Container} (h : afterValue stack s = .ok (stack', r))
    (t : List Char) : afterValue stack (s ++ t) = .ok (stack', r ++ t) := by
  fun_induction afterValue stack s with
  | case1 =>
    obtain ⟨rfl, rfl⟩ := Prod.mk.inj (Except.ok.inj h)
    rfl
  | case2 => simp at h
  | case3 => simp at h
  | case4 k outer s r₀ r₁ he hs =>
    obtain ⟨rfl, rfl⟩ := Prod.mk.inj (Except.ok.inj h)
    exact afterValue_comma (skipSpace_extend hs t) (enterMember_extend he t)
  | case5 k outer s r₀ hs _ ih =>
    exact (afterValue_closer (skipSpace_extend hs t)).trans (ih h)
  | case6 => simp at h

lemma skipScalar_extend (h : skipScalar s = .ok r) (hr : r ≠ []) (t : List Char) :
    skipScalar (s ++ t) = .ok (r ++ t) := by
  unfold skipScalar at h
  split at h
  · simp at h
  · exact skipString_extend h t
  · exact word_extend h t
  · exact word_extend h t
  · exact word_extend h t
  · rename_i c s' _ _ _ _
    split_ifs at h with hc
    exact (skipScalar_of_number hc (s' ++ t)).trans (skipNumber_extend h hr t)

lemma openContainer_extend {k : Container} {stack stack' : List Container}
    (h : openContainer k stack s = .ok (stack', r)) (t : List Char) :
    openContainer k stack (s ++ t) = .ok (stack', r ++ t) := by
  rw [openContainer] at h
  split at h
  · simp at h
  · rename_i c r' hs
    have hst := skipSpace_extend hs t
    split_ifs at h with hc
    · rw [openContainer_closer (hc ▸ hst)]
      exact afterValue_extend h t
    · split at h
      · simp at h
      · rename_i he
        obtain ⟨rfl, rfl⟩ := Prod.mk.inj (Except.ok.inj h)
        exact openContainer_enter hst hc (enterMember_extend he t)

lemma skipOne_extend {stack stack' : List Container} (h : skipOne stack s = .ok (stack', r))
    (hr : r ≠ []) (t : List Char) : skipOne stack (s ++ t) = .ok (stack', r ++ t) := by
  rw [skipOne] at h
  split at h
  · rename_i hs
    rw [skipOne, skipSpace_extend hs]
    exact openContainer_extend h t
  · rename_i hs
    rw [skipOne, skipSpace_extend hs]
    exact openContainer_extend h t
  · rename_i hlist hobject
    split at h
    · simp at h
    · rename_i r' hk
      have hr' := ne_nil_of_length_le hr (length_le_of_afterValue h)
      have hst := skipScalar_extend hk hr' t
      have hne : skipSpace s ≠ [] := by
        intro hs
        rw [hs] at hk
        cases hk
      obtain ⟨c, u, hs⟩ := List.exists_cons_of_ne_nil hne
      rw [hs] at hst hlist hobject
      rw [skipOne, skipSpace_extend hs]
      split
      · simp_all
      · simp_all
      · rw [List.cons_append] at hst
        rw [hst]
        exact afterValue_extend h t

lemma skipFrom_extend {stack : List Container} (h : skipFrom stack s = .ok r) (hr : r ≠ [])
    (t : List Char) : skipFrom stack (s ++ t) = .ok (r ++ t) := by
  fun_induction skipFrom stack s with
  | case1 => simp at h
  | case2 stack s r' hs =>
    obtain rfl := Except.ok.inj h
    rw [skipFrom_eq_resume, skipOne_extend hs hr]
    rfl
  | case3 stack s k outer r' hs ih =>
    have hr' := ne_nil_of_length_le hr (Nat.le_of_lt (length_lt_of_skipFrom h))
    rw [skipFrom_eq_resume, skipOne_extend hs hr']
    exact ih h

/-- **Skipping** ends at the same place where more text follows. -/
lemma skipValue_extend (h : skipValue s = .ok r) (hr : r ≠ []) (t : List Char) :
    skipValue (s ++ t) = .ok (r ++ t) :=
  skipFrom_extend h hr t

end Keystroke.Json
