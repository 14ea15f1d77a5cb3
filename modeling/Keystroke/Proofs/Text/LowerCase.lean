import Mathlib.Data.List.Forall2
import Mathlib.Tactic.Common

/-!
Texts in lower case. Only the letters A to Z are lowered; every other character, a letter beyond
ASCII among them, is its own form in lower case.

* `Text.IsCapitalOf`: a letter from A to Z and its small form;
* `Text.lowered`, `Text.Lowers`: the text in lower case, and what it is character by character
  (`lowers_iff`);
* `Text.SameButCase`: texts that differ in the case of letters only, which are those with the same
  lower case (`sameButCase_iff`).
-/

namespace Keystroke.Text

/-! ### Characters -/

/-- A capital letter, A to Z. -/
def IsCapital (c : Char) : Prop :=
  'A' ≤ c ∧ c ≤ 'Z'

/-- A capital letter and its small form. -/
def IsCapitalOf (c d : Char) : Prop :=
  IsCapital c ∧ d.toNat = c.toNat + 32

instance (c : Char) : Decidable (IsCapital c) :=
  inferInstanceAs (Decidable (_ ∧ _))

instance (c d : Char) : Decidable (IsCapitalOf c d) :=
  inferInstanceAs (Decidable (_ ∧ _))

lemma isCapital_iff {c : Char} : IsCapital c ↔ 65 ≤ c.toNat ∧ c.toNat ≤ 90 :=
  Iff.rfl

lemma toNat_toLower {c : Char} (h : IsCapital c) : c.toLower.toNat = c.toNat + 32 := by
  have hle : c.val.toNat ≤ 90 := (isCapital_iff.mp h).2
  have hval : c.toLower.val = c.val + 32 := congrArg Char.val (dif_pos h)
  calc c.toLower.val.toNat
      = (c.val.toNat + 32) % 2 ^ 32 := by rw [hval]; exact UInt32.toNat_add ..
    _ = c.val.toNat + 32 := Nat.mod_eq_of_lt (by omega)

lemma toLower_of_not_isCapital {c : Char} (h : ¬ IsCapital c) : c.toLower = c :=
  dif_neg h

/-- The lower case of a character: the small form of a capital letter, and any other character
itself. -/
lemma toLower_eq_iff {c d : Char} : c.toLower = d ↔ IsCapitalOf c d ∨ ¬ IsCapital c ∧ d = c := by
  by_cases h : IsCapital c
  · simp only [IsCapitalOf, h, true_and, not_true_eq_false, false_and, or_false]
    rw [← toNat_toLower h, Char.toNat_inj, eq_comm]
  · simp only [IsCapitalOf, h, false_and, not_false_eq_true, true_and, false_or]
    rw [toLower_of_not_isCapital h, eq_comm]

/-- No small letter is a capital one. -/
lemma IsCapitalOf.not_isCapital {c d : Char} (h : IsCapitalOf c d) : ¬ IsCapital d := by
  obtain ⟨hc, hd⟩ := h
  rw [isCapital_iff] at hc ⊢
  omega

/-- Two characters have the same lower case if they are the same, or if one is the capital of the
other. -/
lemma toLower_eq_toLower_iff {c d : Char} :
    c.toLower = d.toLower ↔ c = d ∨ IsCapitalOf c d ∨ IsCapitalOf d c := by
  constructor
  · intro h
    rcases toLower_eq_iff.mp h with hc | ⟨hc, hd⟩ <;>
      rcases toLower_eq_iff.mp h.symm with hd' | ⟨hd', hc'⟩
    · have hc'' := toNat_toLower hc.1
      have hd'' := toNat_toLower hd'.1
      rw [h] at hc''
      exact .inl (Char.toNat_inj.mp (by omega))
    · rw [toLower_of_not_isCapital hd'] at hc
      exact .inr (.inl hc)
    · rw [toLower_of_not_isCapital hc] at hd'
      exact .inr (.inr hd')
    · rw [toLower_of_not_isCapital hd'] at hd
      exact .inl hd.symm
  · have hlower : ∀ {c d}, IsCapitalOf c d → c.toLower = d.toLower := fun h => by
      rw [toLower_of_not_isCapital h.not_isCapital]
      exact toLower_eq_iff.mpr (.inl h)
    rintro (rfl | h | h)
    · rfl
    · exact hlower h
    · exact (hlower h).symm

/-! ### Texts -/

/-- A text in lower case. -/
def lowered (s : String) : String :=
  s.map Char.toLower

lemma toList_lowered (s : String) : (lowered s).toList = s.toList.map Char.toLower :=
  String.toList_map

/-- One text is another one with its capital letters made small and nothing else changed. -/
def Lowers (s t : String) : Prop :=
  List.Forall₂ (fun c d => IsCapitalOf c d ∨ ¬ IsCapital c ∧ d = c) s.toList t.toList

/-- Two texts are the same up to the case of the letters A to Z. -/
def SameButCase (s t : String) : Prop :=
  List.Forall₂ (fun c d => c = d ∨ IsCapitalOf c d ∨ IsCapitalOf d c) s.toList t.toList

lemma lowers_iff {s t : String} : Lowers s t ↔ lowered s = t := by
  simp only [Lowers, ← toLower_eq_iff]
  rw [← String.toList_inj, toList_lowered, ← List.forall₂_eq_eq_eq, List.forall₂_map_left_iff]

lemma sameButCase_iff {s t : String} : SameButCase s t ↔ lowered s = lowered t := by
  simp only [SameButCase, ← toLower_eq_toLower_iff]
  rw [← String.toList_inj, toList_lowered, toList_lowered, ← List.forall₂_eq_eq_eq,
    List.forall₂_map_left_iff, List.forall₂_map_right_iff]

end Keystroke.Text
