import Keystroke.Json.Strings
import Keystroke.Proofs.Json.Document
import Keystroke.Proofs.Text.Utf16

/-!
Strings of a document, read and skipped.

* `skipString_text`: every string is skipped, whatever its units are;
* `Gives`: what a step gives, and that it gives nothing else;
* `gives_stringBody_text`: a string is read as the characters whose units it stands for, and not
  read at all if there are none.
-/

namespace Keystroke.Json

open Text

/-! ### Steps -/

section

variable {α : Type} {x : Step α} {P : α → Prop} {rest : List Char}

/-- A step gives what has a property, leaving the given rest, and nothing else. -/
def Gives (x : Step α) (P : α → Prop) (rest : List Char) : Prop :=
  ∀ a r, x = .ok (a, r) ↔ P a ∧ r = rest

lemma gives_error {f : Fault} (h : ∀ a, ¬P a) : Gives (.error f) P rest :=
  fun a _ => ⟨fun h' => by simp at h', fun h' => absurd h'.1 (h a)⟩

lemma gives_ok {a : α} (ha : P a) (h : ∀ b, P b → b = a) : Gives (.ok (a, rest)) P rest := by
  intro b r
  rw [Except.ok.injEq, Prod.mk.injEq]
  refine ⟨?_, fun h' => ⟨(h b h'.1).symm, h'.2.symm⟩⟩
  rintro ⟨rfl, rfl⟩
  exact ⟨ha, rfl⟩

/-- Such a step succeeds with the only value that has the property, or fails where there is none. -/
lemma Gives.cases (h : Gives x P rest) :
    (∃ a, x = .ok (a, rest) ∧ P a ∧ ∀ b, P b → b = a) ∨ ∃ f, x = .error f ∧ ∀ a, ¬P a := by
  cases hx : x with
  | error f =>
      refine .inr ⟨f, rfl, fun a ha => ?_⟩
      have hok : x = .ok (a, rest) := (h a rest).mpr ⟨ha, rfl⟩
      rw [hx] at hok
      simp at hok
  | ok p =>
      obtain ⟨a, r⟩ := p
      obtain ⟨ha, rfl⟩ := (h a r).mp hx
      refine .inl ⟨a, rfl, ha, fun b hb => ?_⟩
      have hok : x = .ok (b, r) := (h b r).mpr ⟨hb, rfl⟩
      have heq : (.ok (a, r) : Step α) = .ok (b, r) := hx.symm.trans hok
      simp only [Except.ok.injEq, Prod.mk.injEq, and_true] at heq
      exact heq.symm

end

/-! ### Surrogates -/

lemma isLeading_iff {n : Nat} : isLeading n = true ↔ 0xd800 ≤ n ∧ n < 0xdc00 := by
  simp [isLeading]

lemma isTrailing_iff {n : Nat} : isTrailing n = true ↔ 0xdc00 ≤ n ∧ n < 0xe000 := by
  simp [isTrailing]

/-- A unit that is no surrogate is a character. -/
lemma utf16Char_ofNat {n : Nat} (hlt : n < 0x10000) (hl : isLeading n = false)
    (ht : isTrailing n = false) : utf16Char (Char.ofNat n) = [UInt16.ofNat n] := by
  rw [← Bool.not_eq_true, isLeading_iff] at hl
  rw [← Bool.not_eq_true, isTrailing_iff] at ht
  have h : (Char.ofNat n).toNat = n := toNat_ofNat (by omega)
  rw [utf16Char, if_pos (by omega), h]

/-- The units of the character of a surrogate pair. -/
lemma utf16Char_pairChar {n m : Nat} (hn : isLeading n = true) (hm : isTrailing m = true) :
    utf16Char (pairChar n m) = [UInt16.ofNat n, UInt16.ofNat m] := by
  rw [isLeading_iff] at hn
  rw [isTrailing_iff] at hm
  have h : (pairChar n m).toNat = 0x10000 + (n - 0xd800) * 0x400 + (m - 0xdc00) :=
    toNat_ofNat (by omega)
  have hhigh : 0xd800 + ((pairChar n m).toNat - 0x10000) / 0x400 = n := by omega
  have hlow : 0xdc00 + ((pairChar n m).toNat - 0x10000) % 0x400 = m := by omega
  rw [utf16Char, if_neg (by omega), hhigh, hlow]

/-- The units of a text begin with a surrogate only if it is a leading one before a trailing
one. -/
lemma exists_of_cons_eq_utf16 {u : Code} {us : List Code} {cs : List Char}
    (h : u :: us = utf16 cs) :
    isTrailing u.toNat = false ∧
      (isLeading u.toNat = true → ∃ v us', us = v :: us' ∧ isTrailing v.toNat = true) := by
  simp only [← Bool.not_eq_true, isLeading_iff, isTrailing_iff]
  cases cs with
  | nil => simp [utf16] at h
  | cons c cs =>
      have hc := toNat_ranges c
      rcases utf16Char_cases c with ⟨hlt, he⟩ | ⟨hge, he⟩
      · obtain ⟨rfl, rfl⟩ : u = UInt16.ofNat c.toNat ∧ us = utf16 cs := by
          simpa [utf16, he] using h
        rw [UInt16.toNat_ofNat']
        exact ⟨by omega, fun h' => by omega⟩
      · obtain ⟨rfl, rfl⟩ : u = UInt16.ofNat (0xd800 + (c.toNat - 0x10000) / 0x400) ∧
            us = UInt16.ofNat (0xdc00 + (c.toNat - 0x10000) % 0x400) :: utf16 cs := by
          simpa [utf16, he] using h
        rw [UInt16.toNat_ofNat']
        refine ⟨by omega, fun _ => ⟨_, _, rfl, ?_⟩⟩
        rw [UInt16.toNat_ofNat']
        omega

/-- The units of a character do not begin with a trailing surrogate. -/
lemma isTrailing_head {c : Char} {u : Code} {us us' : List Code}
    (h : utf16Char c ++ us = u :: us') : isTrailing u.toNat = false := by
  obtain ⟨us₁, hus₁⟩ : ∃ us₁, u :: us₁ = utf16 [c] := by
    rcases utf16Char_cases c with ⟨_, he⟩ | ⟨_, he⟩ <;> simp_all [utf16]
  exact (exists_of_cons_eq_utf16 hus₁).1

/-! ### Escapes -/

lemma hexDigit?_char (d : HexDigit) : hexDigit? d.char = some d.value.val := by
  obtain ⟨value, upper⟩ := d
  decide +revert

lemma hexQuad_unit (w x y z : HexDigit) (r : List Char) :
    hexQuad (w.char :: x.char :: y.char :: z.char :: r) = .ok (Piece.unit w x y z, r) := by
  simp only [hexQuad, hexQuad?, hexDigit?_char, Piece.unit]

lemma unit_lt (w x y z : HexDigit) : Piece.unit w x y z < 0x10000 := by
  rw [Piece.unit]
  omega

lemma toNat_unit (w x y z : HexDigit) :
    (UInt16.ofNat (Piece.unit w x y z)).toNat = Piece.unit w x y z := by
  rw [UInt16.toNat_ofNat', Nat.mod_eq_of_lt (unit_lt w x y z)]

lemma simpleEscape?_letter (e : ShortEscape) : simpleEscape? e.letter = some e.char := by
  cases e <;> rfl

lemma letter_ne_u (e : ShortEscape) : e.letter ≠ 'u' := by
  cases e <;> decide

lemma escape_letter (e : ShortEscape) (r : List Char) :
    escape (e.letter :: r) = .ok (e.char, r) := by
  simp [escape, letter_ne_u, simpleEscape?_letter]

lemma skipEscape_letter (e : ShortEscape) (r : List Char) : skipEscape (e.letter :: r) = .ok r := by
  simp [skipEscape, letter_ne_u, simpleEscape?_letter]

lemma escape_unicode (w x y z : HexDigit) (r : List Char) :
    escape ('u' :: w.char :: x.char :: y.char :: z.char :: r) =
      if isTrailing (Piece.unit w x y z) then .error (.here .loneSurrogate r)
      else if isLeading (Piece.unit w x y z) then trailingEscape (Piece.unit w x y z) r
      else .ok (Char.ofNat (Piece.unit w x y z), r) := by
  simp only [escape, unicodeEscape, hexQuad_unit]

/-! ### Skipping -/

lemma isControl_plain (c : PlainChar) : isControl c.val = false := by
  have h := c.property.1
  simp only [isControl, decide_eq_false_iff_not]
  omega

lemma skipString_plain (c : PlainChar) (r : List Char) :
    skipString (c.val :: r) = skipString r := by
  rw [skipString, isControl_plain]
  · rfl
  · exact c.property.2.1
  · exact c.property.2.2

lemma skipString_escape {r r' : List Char} (h : skipEscape r = .ok r') :
    skipString ('\\' :: r) = skipString r' := by
  rw [skipString]
  split
  · simp_all
  · simp_all

/-- **Skipping strings**: every string is skipped, whatever its units are. -/
theorem skipString_text (s : StringText) (rest : List Char) :
    skipString (s.text ++ '"' :: rest) = .ok rest := by
  induction s with
  | nil => simp [skipString]
  | cons p s ih =>
      rw [StringText.text_cons, List.append_assoc]
      cases p with
      | plain c => exact (skipString_plain c _).trans ih
      | short e => exact (skipString_escape (skipEscape_letter e _)).trans ih
      | unicode w x y z =>
          have h : skipEscape ('u' :: w.char :: x.char :: y.char :: z.char ::
              (StringText.text s ++ '"' :: rest)) = .ok (StringText.text s ++ '"' :: rest) := by
            simp only [skipEscape, hexQuad_unit]
          exact (skipString_escape h).trans ih

/-! ### Reading -/

/-- A text is read as one character and what the rest of it is read as. -/
def ReadsThen (t : List Char) (c : Char) (t' : List Char) : Prop :=
  ∀ cs r, stringBody t = .ok (cs, r) ↔ ∃ cs', cs = c :: cs' ∧ stringBody t' = .ok (cs', r)

lemma readsThen_plain (c : PlainChar) (t : List Char) : ReadsThen (c.val :: t) c.val t := by
  intro cs r
  rw [stringBody, isControl_plain]
  · cases h : stringBody t with
    | error f => simp
    | ok a =>
        obtain ⟨cs', r'⟩ := a
        simp [eq_comm]
  · exact c.property.2.1
  · exact c.property.2.2

lemma readsThen_escape {t t' : List Char} {c : Char} (h : escape t = .ok (c, t')) :
    ReadsThen ('\\' :: t) c t' := by
  intro cs r
  rw [stringBody]
  split
  · simp_all
  · rename_i c₁ t₁ h₁
    obtain ⟨rfl, rfl⟩ : c = c₁ ∧ t' = t₁ := by simpa [h] using h₁
    cases hb : stringBody t' with
    | error f => simp
    | ok a =>
        obtain ⟨cs', r'⟩ := a
        simp [eq_comm]

lemma stringBody_ne_ok {t : List Char} {f : Fault} (h : escape t = .error f)
    (a : List Char × List Char) : stringBody ('\\' :: t) ≠ .ok a := by
  rw [stringBody]
  split
  · simp
  · simp_all

/-- The units of what a text is read as. -/
def ReadsAs (t : List Char) (us : List Code) (rest : List Char) : Prop :=
  Gives (stringBody t) (fun cs => us = utf16 cs) rest

lemma ReadsThen.readsAs {t t' rest : List Char} {c : Char} {us : List Code}
    (h : ReadsThen t c t') (h' : ReadsAs t' us rest) : ReadsAs t (utf16Char c ++ us) rest := by
  intro cs r
  show stringBody t = .ok (cs, r) ↔ utf16Char c ++ us = utf16 cs ∧ r = rest
  rw [h, append_eq_utf16_iff]
  constructor
  · rintro ⟨cs', rfl, hb⟩
    obtain ⟨rfl, rfl⟩ := (h' cs' r).mp hb
    exact ⟨⟨cs', rfl, rfl⟩, rfl⟩
  · rintro ⟨⟨cs', rfl, hus⟩, rfl⟩
    exact ⟨cs', rfl, (h' cs' r).mpr ⟨hus, rfl⟩⟩

lemma readsAs_of_error {t rest : List Char} {us : List Code} {f : Fault} (h : escape t = .error f)
    (hus : ∀ cs, us ≠ utf16 cs) : ReadsAs ('\\' :: t) us rest := by
  intro cs r
  exact ⟨fun hb => absurd hb (stringBody_ne_ok h _), fun hb => absurd hb.1 (hus cs)⟩

/-- Behind a leading surrogate stands the escape of a trailing one, or no unit that could complete
the pair. -/
lemma trailingEscape_text (n : Nat) (s : StringText) (rest : List Char) :
    (∃ w x y z s', s = .unicode w x y z :: s' ∧ isTrailing (Piece.unit w x y z) = true ∧
      trailingEscape n (s.text ++ '"' :: rest) =
        .ok (pairChar n (Piece.unit w x y z), StringText.text s' ++ '"' :: rest)) ∨
    (∃ f, trailingEscape n (s.text ++ '"' :: rest) = .error f) ∧
      ∀ v us, s.units = v :: us → isTrailing v.toNat = false := by
  cases s with
  | nil => exact .inr ⟨⟨_, rfl⟩, by simp⟩
  | cons p s =>
      rw [StringText.text_cons, StringText.units_cons, List.append_assoc]
      cases p with
      | plain c =>
          refine .inr
            ⟨⟨.next .unfinishedPair (c.val :: (StringText.text s ++ '"' :: rest)), ?_⟩, ?_⟩
          · have hc := c.property.2.2
            simp only [Piece.text, List.cons_append, List.nil_append]
            unfold trailingEscape
            split <;> simp_all
          · intro v us h
            exact isTrailing_head h
      | short e =>
          refine .inr
            ⟨⟨.next .unfinishedPair (e.letter :: (StringText.text s ++ '"' :: rest)), ?_⟩, ?_⟩
          · have he := letter_ne_u e
            simp only [Piece.text, List.cons_append, List.nil_append]
            unfold trailingEscape
            split <;> simp_all
          · intro v us h
            exact isTrailing_head h
      | unicode w x y z =>
          have hq : trailingEscape n (Piece.text (.unicode w x y z) ++
              (StringText.text s ++ '"' :: rest)) =
              if isTrailing (Piece.unit w x y z) then
                .ok (pairChar n (Piece.unit w x y z), StringText.text s ++ '"' :: rest)
              else .error (.here .loneSurrogate (StringText.text s ++ '"' :: rest)) := by
            simp only [Piece.text, List.cons_append, List.nil_append, trailingEscape, hexQuad_unit]
          by_cases ht : isTrailing (Piece.unit w x y z) = true
          · exact .inl ⟨w, x, y, z, s, rfl, ht, by rw [hq, if_pos ht]⟩
          · refine .inr ⟨⟨_, by rw [hq, if_neg ht]⟩, ?_⟩
            intro v us h
            obtain ⟨rfl, -⟩ := List.cons.inj h
            rw [toNat_unit]
            exact Bool.not_eq_true _ ▸ ht

/-- A string is read as the characters whose units it stands for. -/
lemma readsAs_text (s : StringText) (rest : List Char) :
    ReadsAs (s.text ++ '"' :: rest) s.units rest := by
  induction h : s.length using Nat.strongRecOn generalizing s with
  | _ k ih =>
    subst h
    cases s with
    | nil =>
        intro cs r
        have hb : stringBody ('"' :: rest) = .ok ([], rest) := by rw [stringBody]
        show stringBody ('"' :: rest) = .ok (cs, r) ↔ [] = utf16 cs ∧ r = rest
        rw [hb, nil_eq_utf16_iff]
        constructor
        · rintro ⟨⟩
          exact ⟨rfl, rfl⟩
        · rintro ⟨rfl, rfl⟩
          rfl
    | cons p s =>
        have ihs := ih s.length (by simp) s rfl
        rw [StringText.text_cons, StringText.units_cons, List.append_assoc]
        cases p with
        | plain c => exact (readsThen_plain c _).readsAs ihs
        | short e => exact (readsThen_escape (escape_letter e _)).readsAs ihs
        | unicode w x y z =>
            have he := escape_unicode w x y z (StringText.text s ++ '"' :: rest)
            have hn := toNat_unit w x y z
            by_cases ht : isTrailing (Piece.unit w x y z) = true
            · rw [if_pos ht] at he
              refine readsAs_of_error he fun cs hcs => ?_
              have hf := (exists_of_cons_eq_utf16 hcs).1
              rw [hn, ht] at hf
              exact Bool.noConfusion hf
            rw [if_neg ht] at he
            by_cases hl : isLeading (Piece.unit w x y z) = true
            · rw [if_pos hl] at he
              rcases trailingEscape_text (Piece.unit w x y z) s rest with
                ⟨w', x', y', z', s', rfl, ht', hq⟩ | ⟨⟨f, hf⟩, hv⟩
              · have ihs' := ih s'.length (by simp only [List.length_cons]; omega) s' rfl
                have h := (readsThen_escape (he.trans hq)).readsAs ihs'
                rw [utf16Char_pairChar hl ht'] at h
                exact h
              · refine readsAs_of_error (he.trans hf) fun cs hcs => ?_
                obtain ⟨v, us, hus, htv⟩ := (exists_of_cons_eq_utf16 hcs).2 (hn.symm ▸ hl)
                exact absurd htv (by simp [hv v us hus])
            · rw [if_neg hl] at he
              have h := (readsThen_escape he).readsAs ihs
              rw [utf16Char_ofNat (unit_lt w x y z) (by simpa using hl) (by simpa using ht)] at h
              exact h

/-- **Reading strings**: a string is read as what it spells, and not read at all if it spells
nothing. -/
theorem gives_stringBody_text (s : StringText) (rest : List Char) :
    Gives (stringBody (s.text ++ '"' :: rest)) (fun cs => s.Spells (String.ofList cs)) rest := by
  intro cs r
  show _ ↔ s.units = utf16 (String.ofList cs).toList ∧ r = rest
  rw [String.toList_ofList]
  exact readsAs_text s rest cs r

/-- A string spells one text at most. -/
lemma StringText.Spells.unique {s : StringText} {a b : String} (ha : s.Spells a)
    (hb : s.Spells b) : a = b := by
  have hread : ∀ {n : String}, s.Spells n →
      stringBody (s.text ++ '"' :: []) = .ok (n.toList, []) := by
    intro n hn
    refine (gives_stringBody_text s [] _ _).mpr ⟨?_, rfl⟩
    show s.Spells (String.ofList n.toList)
    rwa [String.ofList_toList]
  have heq := (hread ha).symm.trans (hread hb)
  simp only [Except.ok.injEq, Prod.mk.injEq, and_true, String.toList_inj] at heq
  exact heq

end Keystroke.Json
