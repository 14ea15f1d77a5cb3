import Keystroke.Proofs.CommandLine.Character

/-!
Messages about texts that are refused, as codes or as characters.

* `Refusal`: a text is refused with a message;
* `Refusal.repeats`: the message repeats the text;
* `refusal_reads_back`: what such messages are good for, and that no two texts have one in common.
-/

namespace Keystroke.CommandLine

/-- A text is refused with a message: it is no code, or no character. -/
inductive Refusal (s : String) : String → Prop where
  | code {e : NumeralError} (h : Numeral.parse s = .error e) : Refusal s (e.message s)
  | character {e : RequestError} (h : Invocation.textUnit s = .error e) : Refusal s e.message

namespace Refusal

variable {s s' m : String}

lemma repeats (h : Refusal s m) : Text.Repeats m s := by
  cases h with
  | @code e h =>
      exact ⟨"invalid code ", ": " ++ e.reason, String.append_assoc, by decide,
        by cases e <;> decide⟩
  | character h =>
      obtain ⟨rfl, -⟩ := Invocation.textUnit_eq_error_iff.mp h
      exact RequestError.repeats s

/-- The message says which text was refused. -/
lemma unique (h : Refusal s m) (h' : Refusal s' m) : s = s' :=
  h.repeats.unique h'.repeats

end Refusal

/-- **Refused texts**: the message about a text that is refused, as a code or as a character, has no
control characters in it, so it is a single line.  It repeats the text between quotes; each quote
among these has a backslash of its own before it, so it does not end the text; and with the escapes
undone it is the text that was refused.  So no message belongs to two texts. -/
theorem refusal_reads_back :
    (∀ s m, Refusal s m →
      (∀ c ∈ m.toList, 0x20 ≤ c.toNat) ∧ Text.lines m = [m] ∧
      Text.Repeats m s ∧
      (∀ before after, Text.quotedPart m = before ++ '"' :: after → Text.Guards before) ∧
      Text.unescape (Text.quotedPart m) = some s) ∧
    ∀ s s' m, Refusal s m → Refusal s' m → s = s' := by
  refine ⟨fun s m h => ?_, fun s s' m => Refusal.unique⟩
  have hrepeats := h.repeats
  exact ⟨fun _ => hrepeats.le_toNat, hrepeats.lines_eq, hrepeats,
    fun _ _ => hrepeats.guards_of_quotedPart_eq, hrepeats.unescape_quotedPart⟩

/-- A text that would close its quotes and begin another line is told apart from the text that it is
written as, and what is shown as part of a character stands by itself. -/
theorem refusal_reads_back_forged :
    Refusal "9\": \n" "invalid code \"9\\\": \\n\": invalid digit found in string" ∧
      ¬ Refusal "9\\\": \\n" "invalid code \"9\\\": \\n\": invalid digit found in string" ∧
      Text.Guards ['9', '\\'] ∧ Text.unescape "9\\\": \\n".toList = some "9\": \n" ∧
      Text.unescape "e\\u\x7b301\x7d".toList = some "e\u0301" := by
  obtain ⟨hreads, hunique⟩ := refusal_reads_back
  have hcode : Refusal "9\": \n" "invalid code \"9\\\": \\n\": invalid digit found in string" := by
    have hmessage : NumeralError.invalidDigit.message "9\": \n" =
        "invalid code \"9\\\": \\n\": invalid digit found in string" := by decide +kernel
    exact hmessage ▸ .code (by decide +kernel)
  obtain ⟨-, -, -, hguards, hread⟩ := hreads _ _ hcode
  have hpart : Text.quotedPart "invalid code \"9\\\": \\n\": invalid digit found in string" =
      "9\\\": \\n".toList := by decide +kernel
  have haccent : Refusal "e\u0301" (RequestError.textNotSingle "e\u0301").message :=
    .character (Invocation.textUnit_eq_error_iff_shape.mpr ⟨rfl, .inr (.inl (by decide))⟩)
  obtain ⟨-, -, -, -, hreadAccent⟩ := hreads _ _ haccent
  have hpartAccent : Text.quotedPart (RequestError.textNotSingle "e\u0301").message =
      "e\\u\x7b301\x7d".toList := by decide +kernel
  refine ⟨hcode, fun h => ?_, hguards _ [':', ' ', '\\', 'n'] (hpart.trans (by decide)),
    (congrArg Text.unescape hpart).symm.trans hread,
    (congrArg Text.unescape hpartAccent).symm.trans hreadAccent⟩
  exact absurd (hunique _ _ _ h hcode) (by decide)

end Keystroke.CommandLine
