import Keystroke.PostError
import Keystroke.Proofs.Numeral.Writing
import Mathlib.Data.List.DropRight
import Mathlib.Data.List.Infix

/-!
The text of an error says which error it is.

* `Code.written`, `Code.parse_hex`: a code in a message is a numeral, which is read as the code;
* `Topic.opening`, `Topic.eq_of_isPrefix_opening`: what messages begin with, by topic; no opening
  begins another one;
* `message_eq`, `message_inj`: a message is its opening and the detail behind it, and errors with
  the same message are the same;
* `message_tells`: all that a message says about its error.
-/

namespace Keystroke

/-! ### Codes in messages -/

/-- A digit of radix sixteen, in lower case where there is a case. -/
def Numeral.IsSmallHex (c : Char) : Prop :=
  '0' ≤ c ∧ c ≤ '9' ∨ 'a' ≤ c ∧ c ≤ 'f'

instance (c : Char) : Decidable (Numeral.IsSmallHex c) :=
  inferInstanceAs (Decidable (_ ∨ _))

namespace Code

open Numeral (Digit Written)

/-- The digit of a code that has the given weight. -/
def digitAt (c : Code) (weight : Nat) : Digit 16 :=
  ⟨⟨c.toNat / weight % 16, Nat.mod_lt _ (by decide)⟩, false⟩

lemma isSmallHex_digitAt (c : Code) (weight : Nat) :
    Numeral.IsSmallHex (c.digitAt weight).char := by
  have hdigit : ∀ v < 16, Numeral.IsSmallHex v.digitChar := by decide
  exact hdigit _ (Nat.mod_lt _ (by decide))

/-- A code as it is written in messages. -/
def written (c : Code) : Written where
  lead := .lower
  plus := false
  head := c.digitAt 0x1000
  tail := [c.digitAt 0x100, c.digitAt 0x10, c.digitAt 1]

lemma text_written (c : Code) : c.written.text = c.hex.toList := by
  have htext : c.written.text =
      ['0', 'x', Nat.digitChar (c.toNat / 0x1000 % 16), Nat.digitChar (c.toNat / 0x100 % 16),
        Nat.digitChar (c.toNat / 0x10 % 16), Nat.digitChar (c.toNat / 1 % 16)] := rfl
  have hlt := c.toNat_lt
  have hfirst : c.toNat / 0x1000 % 16 = c.toNat / 0x1000 := by omega
  rw [htext, hex, String.toList_ofList, hfirst, Nat.div_one]

lemma value_written (c : Code) : c.written.value = c.toNat := by
  have hlt := c.toNat_lt
  have hvalue : c.written.value = Nat.ofDigits 16 [c.toNat / 1 % 16, c.toNat / 0x10 % 16,
      c.toNat / 0x100 % 16, c.toNat / 0x1000 % 16] := rfl
  simp only [hvalue, Nat.ofDigits_cons, Nat.ofDigits_nil]
  omega

/-- A code is read as itself. -/
lemma parse_hex (c : Code) : Numeral.parse c.hex = .ok c :=
  Written.parse_eq_ok c.text_written c.value_written

/-- The digits of a code in a message are four, in lower case. -/
lemma exists_digits_hex (c : Code) : ∃ digits, c.hex.toList = '0' :: 'x' :: digits ∧
    digits.length = 4 ∧ ∀ d ∈ digits, Numeral.IsSmallHex d := by
  let digits : List (Digit 16) :=
    [c.digitAt 0x1000, c.digitAt 0x100, c.digitAt 0x10, c.digitAt 1]
  refine ⟨Digit.text digits, c.text_written.symm, rfl, fun d hd => ?_⟩
  obtain ⟨x, hx, rfl⟩ := List.mem_map.mp hd
  simp only [digits, List.mem_cons, List.not_mem_nil, or_false] at hx
  rcases hx with rfl | rfl | rfl | rfl <;> exact isSmallHex_digitAt ..

lemma hex_inj {c d : Code} (h : c.hex = d.hex) : c = d :=
  Except.ok.inj (c.parse_hex.symm.trans (h ▸ d.parse_hex))

end Code

/-! ### Openings -/

namespace PostError

/-- What an error is about. -/
inductive Topic where
  | source
  | event (direction : Direction)
  | backend
  | request
  deriving DecidableEq

namespace Topic

/-- What messages begin with. -/
def opening : Topic → String
  | source => "Failed to create keyboard event source"
  | event direction => "Failed to create key " ++ direction.name ++ " event for key code "
  | backend => "Platform not supported"
  | request => "Invalid request: "

/-- Every topic. -/
def all : List Topic :=
  [source, event .down, event .up, backend, request]

lemma mem_all (t : Topic) : t ∈ all := by
  rcases t with _ | ⟨_ | _⟩ | _ | _ <;> simp [all]

/-- No opening is the beginning of another one. -/
lemma eq_of_isPrefix_opening {t u : Topic} (h : t.opening.toList <+: u.opening.toList) : t = u := by
  have hall : ∀ t ∈ all, ∀ u ∈ all, t.opening.toList <+: u.opening.toList → t = u := by
    decide +kernel
  exact hall t t.mem_all u u.mem_all h

end Topic

/-- What an error is about. -/
def topic : PostError → Topic
  | noSource => .source
  | noEvent _ direction => .event direction
  | noBackend => .backend
  | badRequest _ => .request

/-- What a message has behind its opening. -/
def detail : PostError → String
  | noEvent key _ => key.hex
  | badRequest reason => reason
  | _ => ""

lemma message_eq (e : PostError) : e.message = e.topic.opening ++ e.detail := by
  cases e with
  | noSource => exact String.append_empty.symm
  | noEvent key direction => rfl
  | noBackend => exact String.append_empty.symm
  | badRequest reason => rfl

lemma eq_of_topic_eq {e f : PostError} (ht : e.topic = f.topic) (hd : e.detail = f.detail) :
    e = f := by
  cases e <;> cases f <;> cases ht
  · rfl
  · exact congrArg (noEvent · _) (Code.hex_inj hd)
  · rfl
  · exact congrArg badRequest hd

/-- Errors with the same message are the same. -/
lemma message_inj {e f : PostError} (h : e.message = f.message) : e = f := by
  rw [message_eq, message_eq] at h
  have hlist := congrArg String.toList h
  rw [String.toList_append, String.toList_append] at hlist
  have htopic : e.topic = f.topic := by
    rcases List.prefix_or_prefix_of_prefix ⟨_, hlist⟩ (List.prefix_append _ _) with hp | hp
    · exact Topic.eq_of_isPrefix_opening hp
    · exact (Topic.eq_of_isPrefix_opening hp).symm
  rw [htopic] at h
  exact eq_of_topic_eq htopic ((String.append_right_inj _).mp h)

lemma lacksEvent_iff (e : PostError) :
    e.lacksEvent = true ↔ "Failed to create ".toList <+: e.message.toList := by
  have hall : ∀ t ∈ Topic.all, "Failed to create ".toList.length ≤ t.opening.toList.length ∧
      ("Failed to create ".toList <+: t.opening.toList ↔ t ≠ .backend ∧ t ≠ .request) := by
    decide +kernel
  obtain ⟨hlength, hopening⟩ := hall _ e.topic.mem_all
  rw [message_eq, String.toList_append, List.isPrefix_append_of_length hlength, hopening]
  cases e <;> simp [lacksEvent, topic]

lemma rtake_message (key : Code) (direction : Direction) :
    (noEvent key direction).message.toList.rtake 6 = key.hex.toList := by
  have htext : (noEvent key direction).message.toList =
      (Topic.event direction).opening.toList ++ key.hex.toList := by
    rw [message_eq, String.toList_append]
    rfl
  have hlength : key.hex.toList.reverse.length = 6 := by simp [Code.hex]
  rw [htext, List.rtake_eq_reverse_take_reverse, List.reverse_append, List.take_left' hlength,
    List.reverse_reverse]

/-- **Texts of errors**: errors with the same text are the same.  A text begins with a failed
creation if and only if the system had no usable event to give; and where an event could not be
made, the text ends in a numeral, with four digits in lower case, that is read as the code of the
key. -/
theorem message_tells :
    (∀ e f : PostError, e.message = f.message ↔ e = f) ∧
    (∀ e : PostError, e.lacksEvent = true ↔ "Failed to create ".toList <+: e.message.toList) ∧
    ∀ key direction, ∃ digits : List Char,
      (noEvent key direction).message.toList.rtake 6 = '0' :: 'x' :: digits ∧
      digits.length = 4 ∧ (∀ d ∈ digits, Numeral.IsSmallHex d) ∧
      Numeral.parse (String.ofList ('0' :: 'x' :: digits)) = .ok key := by
  refine ⟨fun e f => ⟨message_inj, congrArg message⟩, lacksEvent_iff, fun key direction => ?_⟩
  obtain ⟨digits, hhex, hlength, hsmall⟩ := key.exists_digits_hex
  refine ⟨digits, (rtake_message key direction).trans hhex, hlength, hsmall, ?_⟩
  rw [← hhex, String.ofList_toList]
  exact key.parse_hex

/-- A request may be refused for a reason that reads like another error. -/
theorem message_tells_imitated :
    (badRequest "Failed to create key up event for key code 0x00ab").message ≠
        (noEvent 0xab .up).message ∧
      ¬ "Failed to create ".toList <+: (badRequest "Failed to create it").message.toList ∧
      (noEvent 0xab .up).message.toList.rtake 6 = ['0', 'x', '0', '0', 'a', 'b'] ∧
      Numeral.IsSmallHex 'b' ∧ Numeral.parse "0x00ab" = .ok 0xab := by
  obtain ⟨hinj, hlacks, hdigits⟩ := message_tells
  have hend : (noEvent 0xab .up).message.toList.rtake 6 = ['0', 'x', '0', '0', 'a', 'b'] := by
    decide +kernel
  obtain ⟨digits, htake, -, hsmall, hparse⟩ := hdigits 0xab .up
  obtain rfl : ['0', '0', 'a', 'b'] = digits := by simpa [hend] using htake
  refine ⟨fun h => ?_, fun h => ?_, hend, hsmall 'b' (by decide), hparse⟩
  · cases (hinj _ _).mp h
  · cases (hlacks _).mpr h

end PostError

end Keystroke
