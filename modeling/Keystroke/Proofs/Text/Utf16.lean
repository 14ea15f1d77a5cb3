import Keystroke.Text.Utf16
import Mathlib.Tactic.Common

/-!
The UTF-16 units of a text.

* `utf16Char_append_inj`, `append_eq_utf16_iff`: the units of a text determine its characters, one
  after another;
* `Units.toList_of_next?`, `Units.next?_eq_none_iff`: what is taken is the next of the units that are
  left;
* `singleUnit?_eq_some_iff`, `singleUnit?_eq_none_iff`: which texts are a single unit;
* `utf16_eq_singleton_iff`: the unit of such a text is the code point of its one character, so it
  is no surrogate (`not_isSurrogate_of_utf16_eq`).
-/

namespace Keystroke.Text

/-! ### Characters -/

/-- A code point is no surrogate, and below U+110000. -/
lemma toNat_ranges (c : Char) :
    c.toNat < 0xd800 ∨ 0xdfff < c.toNat ∧ c.toNat < 0x110000 :=
  c.valid

lemma toNat_ofNat {n : Nat} (h : n < 0xd800 ∨ 0xdfff < n ∧ n < 0x110000) :
    (Char.ofNat n).toNat = n := by
  rw [Char.ofNat, dif_pos (show n.isValidChar from h)]
  rfl

/-- A character has one unit, its own code point, or a pair of surrogates. -/
lemma utf16Char_cases (c : Char) :
    (c.toNat < 0x10000 ∧ utf16Char c = [UInt16.ofNat c.toNat]) ∨
      (0x10000 ≤ c.toNat ∧
        utf16Char c = [UInt16.ofNat (0xd800 + (c.toNat - 0x10000) / 0x400),
          UInt16.ofNat (0xdc00 + (c.toNat - 0x10000) % 0x400)]) := by
  by_cases h : c.toNat < 0x10000
  · exact .inl ⟨h, if_pos h⟩
  · exact .inr ⟨Nat.le_of_not_lt h, if_neg h⟩

/-- No units of a character begin those of another one. -/
lemma utf16Char_append_inj {c c' : Char} {us us' : List Code}
    (h : utf16Char c ++ us = utf16Char c' ++ us') : c = c' ∧ us = us' := by
  have hc := toNat_ranges c
  have hc' := toNat_ranges c'
  rcases utf16Char_cases c with ⟨hlt, he⟩ | ⟨hge, he⟩ <;>
    rcases utf16Char_cases c' with ⟨hlt', he'⟩ | ⟨hge', he'⟩ <;>
    simp only [he, he', List.cons_append, List.nil_append, List.cons.injEq, ← UInt16.toNat_inj,
      UInt16.toNat_ofNat'] at h
  · exact ⟨Char.toNat_inj.mp (by omega), h.2⟩
  · omega
  · omega
  · exact ⟨Char.toNat_inj.mp (by omega), h.2.2⟩

/-! ### Texts -/

/-- The units of a text begin with those of a character if and only if the text begins with the
character. -/
lemma append_eq_utf16_iff {c : Char} {us : List Code} {cs : List Char} :
    utf16Char c ++ us = utf16 cs ↔ ∃ cs', cs = c :: cs' ∧ us = utf16 cs' := by
  constructor
  · intro h
    cases cs with
    | nil => rcases utf16Char_cases c with ⟨_, he⟩ | ⟨_, he⟩ <;> simp [he, utf16] at h
    | cons c' cs' =>
        obtain ⟨rfl, rfl⟩ := utf16Char_append_inj h
        exact ⟨cs', rfl, rfl⟩
  · rintro ⟨cs', rfl, rfl⟩
    rfl

lemma nil_eq_utf16_iff {cs : List Char} : [] = utf16 cs ↔ cs = [] := by
  constructor
  · intro h
    cases cs with
    | nil => rfl
    | cons c cs => rcases utf16Char_cases c with ⟨_, he⟩ | ⟨_, he⟩ <;> simp [he, utf16] at h
  · rintro rfl
    rfl

/-- A unit that is one half of a pair. -/
def IsSurrogate (u : Code) : Prop :=
  0xd800 ≤ u.toNat ∧ u.toNat ≤ 0xdfff

instance (u : Code) : Decidable (IsSurrogate u) :=
  inferInstanceAs (Decidable (_ ∧ _))

lemma utf16_eq_singleton_iff {cs : List Char} {u : Code} :
    utf16 cs = [u] ↔ ∃ c, cs = [c] ∧ c.toNat = u.toNat := by
  constructor
  · intro h
    obtain _ | ⟨c, cs⟩ := cs
    · simp [utf16] at h
    · change utf16Char c ++ utf16 cs = [u] at h
      rcases utf16Char_cases c with ⟨hlt, he⟩ | ⟨hge, he⟩ <;> rw [he] at h
      · obtain ⟨rfl, hcs⟩ := List.cons.inj h
        refine ⟨c, by rw [nil_eq_utf16_iff.mp hcs.symm], ?_⟩
        rw [UInt16.toNat_ofNat', Nat.mod_eq_of_lt hlt]
      · cases (List.cons.inj h).2
  · rintro ⟨c, rfl, hc⟩
    have hlt : c.toNat < 0x10000 := hc ▸ u.toNat_lt
    rw [utf16, List.flatMap_singleton, utf16Char, if_pos hlt, hc, UInt16.ofNat_toNat]

/-- The one unit of a text is no surrogate. -/
lemma not_isSurrogate_of_utf16_eq {cs : List Char} {u : Code} (h : utf16 cs = [u]) :
    ¬ IsSurrogate u := by
  obtain ⟨c, -, hc⟩ := utf16_eq_singleton_iff.mp h
  have := toNat_ranges c
  rw [IsSurrogate]
  omega

/-- Every other unit is the code point of a character. -/
lemma exists_toNat_eq {u : Code} (h : ¬ IsSurrogate u) : ∃ c : Char, c.toNat = u.toNat := by
  have hlt := u.toNat_lt
  rw [IsSurrogate] at h
  exact ⟨Char.ofNat u.toNat, toNat_ofNat (by omega)⟩

/-! ### Units one after another -/

namespace Units

/-- All the units that are still to be taken. -/
def toList (units : Units) : List Code :=
  units.due.toList ++ utf16 units.rest

/-- A character has a first unit, and a second one or none. -/
lemma utf16Char_eq (c : Char) :
    utf16Char c = (utf16Char c).headD 0 :: (utf16Char c)[1]?.toList := by
  rcases utf16Char_cases c with ⟨_, he⟩ | ⟨_, he⟩ <;> rw [he] <;> rfl

/-- Taking a unit leaves the others, and there is one to take as long as any are left. -/
lemma toList_eq (units : Units) :
    units.toList = (units.next?.map fun p => p.1 :: p.2.toList).getD [] := by
  obtain ⟨_ | u, _ | ⟨c, rest⟩⟩ := units
  · rfl
  · show utf16Char c ++ utf16 rest = _
    rw [utf16Char_eq]
    rfl
  · rfl
  · rfl

lemma next?_eq_none_iff {units : Units} : units.next? = none ↔ units.toList = [] := by
  rw [toList_eq]
  cases units.next? <;> simp

lemma toList_of_next? {units units' : Units} {u : Code} (h : units.next? = some (u, units')) :
    units.toList = u :: units'.toList := by
  rw [toList_eq, h]
  rfl

end Units

/-- Two units are enough to see whether there is just one. -/
lemma singleUnit?_eq_some_iff {s : String} {u : Code} :
    singleUnit? s = some u ↔ utf16 s.toList = [u] := by
  have hall : Units.toList { rest := s.toList } = utf16 s.toList := rfl
  rw [singleUnit?, ← hall]
  cases hfirst : Units.next? { rest := s.toList } with
  | none => simp [Units.next?_eq_none_iff.mp hfirst]
  | some p =>
      obtain ⟨v, units⟩ := p
      rw [Units.toList_of_next? hfirst]
      simp only [Option.isNone_iff_eq_none, Units.next?_eq_none_iff,
        Option.ite_none_right_eq_some, Option.some.injEq, List.cons.injEq]
      exact and_comm

lemma singleUnit?_eq_none_iff {s : String} :
    singleUnit? s = none ↔ ∀ u, utf16 s.toList ≠ [u] := by
  simp only [Option.eq_none_iff_forall_ne_some, ne_eq, singleUnit?_eq_some_iff]

end Keystroke.Text
