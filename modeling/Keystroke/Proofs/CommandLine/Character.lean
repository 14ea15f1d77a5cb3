import Keystroke.Proofs.CommandLine.Consistency

/-!
The character of an event, given as a text.

* `Invocation.textUnit_eq_ok_iff_character`: a text is taken if and only if it is one character
  with a code below U+10000, which is its unit;
* `Invocation.textUnit_eq_error_iff_shape`: every other text is refused, and quoted;
* `Invocation.textUnit_decided`: all that is decided about a text, with its UTF-16 encoding.
-/

namespace Keystroke.CommandLine.Invocation

variable {s s' : String} {u : Code}

lemma textUnit_eq_ok_iff_character :
    textUnit s = .ok u ↔ ∃ c, s.toList = [c] ∧ c.toNat < 0x10000 ∧ u.toNat = c.toNat := by
  rw [textUnit_eq_ok_iff, Text.utf16_eq_singleton_iff]
  constructor
  · rintro ⟨c, hs, hc⟩
    exact ⟨c, hs, hc ▸ u.toNat_lt, hc.symm⟩
  · rintro ⟨c, hs, -, hc⟩
    exact ⟨c, hs, hc.symm⟩

/-- The unit of a text says which text it is. -/
lemma eq_of_textUnit (h : textUnit s = .ok u) (h' : textUnit s' = .ok u) : s = s' := by
  obtain ⟨c, hs, -, hc⟩ := textUnit_eq_ok_iff_character.mp h
  obtain ⟨c', hs', -, hc'⟩ := textUnit_eq_ok_iff_character.mp h'
  obtain rfl : c = c' := Char.toNat_inj.mp (hc.symm.trans hc')
  exact String.toList_inj.mp (hs.trans hs'.symm)

/-- A text that is not one character with a single unit: there is none, there are several, or the
only one needs a pair. -/
def Unsuitable (s : String) : Prop :=
  s.toList = [] ∨ 2 ≤ s.toList.length ∨ ∃ c, s.toList = [c] ∧ 0x10000 ≤ c.toNat

lemma unsuitable_iff : Unsuitable s ↔ ∀ u, textUnit s ≠ .ok u := by
  simp only [Unsuitable, ne_eq, textUnit_eq_ok_iff_character]
  rcases s.toList with _ | ⟨c, _ | ⟨d, cs⟩⟩
  · simp
  · constructor
    · rintro (h | h | ⟨_, ⟨⟩, hc⟩)
      · simp at h
      · simp at h
      · rintro u ⟨_, ⟨⟩, hlt, -⟩
        omega
    · intro h
      refine .inr (.inr ⟨c, rfl, Nat.le_of_not_lt fun hlt => ?_⟩)
      exact h (.ofNat c.toNat) ⟨c, rfl, hlt, by rw [UInt16.toNat_ofNat', Nat.mod_eq_of_lt hlt]⟩
  · simp

lemma textUnit_eq_error_iff_shape {e : RequestError} :
    textUnit s = .error e ↔ e = .textNotSingle s ∧ Unsuitable s := by
  simp only [textUnit_eq_error_iff, unsuitable_iff, ne_eq, textUnit_eq_ok_iff]

/-- **Texts of one unit**: a text is taken as a character if and only if it is a single character
below U+10000, that is, if its UTF-16 encoding is a single unit, which is the code of the character.
The unit is no surrogate and belongs to no other text.  Every other text is refused by an error that
quotes it: with the escapes undone, the text is what stands between the quotes of the message. -/
theorem textUnit_decided (s : String) :
    (∀ u, textUnit s = .ok u ↔ ∃ c, s.toList = [c] ∧ c.toNat < 0x10000 ∧ u.toNat = c.toNat) ∧
    (∀ u, textUnit s = .ok u ↔ Text.utf16 s.toList = [u]) ∧
    (∀ u, textUnit s = .ok u →
      ¬ Text.IsSurrogate u ∧ ∀ s', textUnit s' = .ok u → s' = s) ∧
    (∀ e, textUnit s = .error e ↔ e = .textNotSingle s ∧ Unsuitable s) ∧
    (RequestError.textNotSingle s).message =
      "--text must be exactly one UTF-16 code unit, got " ++ Text.quoted s ∧
    Text.Repeats (RequestError.textNotSingle s).message s ∧
    Text.unescape (Text.quotedPart (RequestError.textNotSingle s).message) = some s := by
  have hrepeats := RequestError.repeats s
  refine ⟨fun _ => textUnit_eq_ok_iff_character, fun _ => textUnit_eq_ok_iff, fun u h => ⟨?_, ?_⟩,
    fun _ => textUnit_eq_error_iff_shape, rfl, hrepeats, hrepeats.unescape_quotedPart⟩
  · exact Text.not_isSurrogate_of_utf16_eq (textUnit_eq_ok_iff.mp h)
  · exact fun s' h' => eq_of_textUnit h' h

/-- The last code of the plane is a unit, the first beyond it is none, and a letter with a combining
accent is two. -/
theorem textUnit_decided_edges :
    textUnit "\uffff" = .ok 0xffff ∧ ¬ Text.IsSurrogate 0xffff ∧
      textUnit "𐀀" = .error (.textNotSingle "𐀀") ∧
      textUnit "e\u0301" = .error (.textNotSingle "e\u0301") := by
  have hlast : textUnit "\uffff" = .ok 0xffff :=
    ((textUnit_decided _).1 _).mpr ⟨'\uffff', by decide, by decide, by decide⟩
  obtain ⟨-, -, hunit, -⟩ := textUnit_decided "\uffff"
  obtain ⟨-, -, -, hpair, -⟩ := textUnit_decided "𐀀"
  obtain ⟨-, -, -, haccent, -⟩ := textUnit_decided "e\u0301"
  exact ⟨hlast, (hunit _ hlast).1, (hpair _).mpr ⟨rfl, .inr (.inr ⟨'𐀀', by decide, by decide⟩)⟩,
    (haccent _).mpr ⟨rfl, .inr (.inl (by decide))⟩⟩

end Keystroke.CommandLine.Invocation
