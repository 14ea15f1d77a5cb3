import Keystroke.CommandLine.Invocation
import Keystroke.Proofs.Text.Messages

/-!
What the errors of requests say.

* `RequestError.repeats`: the error of a text repeats it;
* `RequestError.le_toNat_of_mem_message`: no message has control characters in it;
* `RequestError.eq_of_message_eq`: where nothing lies behind an error, its message tells which
  error it is, and of which text.

Messages are told apart by a single character (`RequestError.mark`), which all of them have at the
same place; only those of two texts need more.
-/

namespace Keystroke.CommandLine.RequestError

variable {e e' : RequestError}

/-- The error of a text repeats it. -/
lemma repeats (s : String) : Text.Repeats (textNotSingle s).message s :=
  ⟨"--text must be exactly one UTF-16 code unit, got ", "", String.append_empty.symm, by decide,
    by decide⟩

lemma le_toNat_of_mem_message (e : RequestError) : ∀ c ∈ e.message.toList, 0x20 ≤ c.toNat := by
  cases e with
  | textNotSingle s => exact fun _ => (repeats s).le_toNat
  | unreadable cause => exact Text.Plain.le_toNat (by decide : Text.Plain "Invalid --request JSON")
  | keyMissing | directionMissing | characterMissing => exact Text.Plain.le_toNat (by decide)

/-- The character by which the message of an error is known. -/
def mark : RequestError → Char
  | unreadable _ => '-'
  | keyMissing => 'r'
  | directionMissing => 'd'
  | textNotSingle _ => 's'
  | characterMissing => 'c'

/-- The tenth character of a message is the one by which it is known. -/
lemma getElem?_message (e : RequestError) : e.message.toList[9]? = some e.mark := by
  cases e with
  | textNotSingle s =>
      have hmessage : (textNotSingle s).message.toList =
          "--text must be exactly one UTF-16 code unit, got ".toList ++ (Text.quoted s).toList :=
        String.toList_append
      rw [hmessage, List.getElem?_append_left (by decide)]
      exact (by decide : "--text must be exactly one UTF-16 code unit, got ".toList[9]? = some 's')
  | unreadable cause => exact (by decide : "Invalid --request JSON".toList[9]? = some '-')
  | keyMissing | directionMissing | characterMissing => decide

lemma mark_eq_of_message_eq (h : e.message = e'.message) : e.mark = e'.mark := by
  have hmark : some e.mark = some e'.mark := by
    rw [← getElem?_message, ← getElem?_message, h]
  exact Option.some.inj hmark

/-- Only one error asks for the key. -/
lemma eq_keyMissing_of_message_eq (h : e.message = keyMissing.message) : e = keyMissing := by
  have hmark := mark_eq_of_message_eq h
  cases e <;> simp [mark] at hmark ⊢

/-- Where nothing lies behind them, errors with the same message are the same. -/
lemma eq_of_message_eq (h : e.message = e'.message) (hc : e.causes = []) (hc' : e'.causes = []) :
    e = e' := by
  have hmark := mark_eq_of_message_eq h
  cases e with
  | unreadable cause => simp [causes] at hc
  | textNotSingle s => cases e' with
    | textNotSingle s' => rw [(repeats s).unique (h ▸ repeats s')]
    | unreadable | keyMissing | directionMissing | characterMissing => simp [mark] at hmark
  | keyMissing | directionMissing | characterMissing =>
      cases e' <;> simp_all [mark, causes]

end Keystroke.CommandLine.RequestError
