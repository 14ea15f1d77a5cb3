/-!
Texts for a terminal. Some characters in them are not shown but obeyed: control characters, and the
sequences that begin with the escape character and set a colour, move the cursor or name the
window. Where no terminal reads along, such a text is reduced to what is shown.

* `Terminal.Sequence`, `Terminal.State`: the sequence a reader is inside of, if any;
* `State.step`: reads one character and says whether it is shown;
* `Text.plain`: the characters of a text that are shown;
* `Text.highlighted`: a text between the sequence that sets a style and the one that ends all
  styles. The latter ends every open sequence as well, so what is shown of a highlighted text and
  of what follows it are two things apart (`shown_highlighted`).
-/

namespace Keystroke.Text

namespace Terminal

/-! ### Characters -/

/-- The white space among the control characters, the vertical tab apart. -/
def isBlankControl (c : Char) : Bool :=
  c = '\t' || c = '\n' || c = '\x0c' || c = '\r'

/-- Whether a character is shown where no sequence is open. -/
def isVisible (c : Char) : Bool :=
  isBlankControl c || (0x20 ≤ c.toNat && c.toNat ≠ 0x7f)

/-- The characters that may stand before the last one of a sequence and choose its kind. -/
def isIntermediate (c : Char) : Bool :=
  0x20 ≤ c.toNat && c.toNat ≤ 0x2f

/-- The characters that the parameters of a sequence consist of. -/
def isParameter (c : Char) : Bool :=
  0x30 ≤ c.toNat && c.toNat ≤ 0x3f

/-- The parameter characters that may only come first. -/
def isPrivateMark (c : Char) : Bool :=
  0x3c ≤ c.toNat && c.toNat ≤ 0x3f

/-- The characters that end a sequence with parameters. -/
def isFinal (c : Char) : Bool :=
  0x40 ≤ c.toNat && c.toNat ≤ 0x7e

/-- Whether the byte that terminates strings occurs in the UTF-8 form of a character. -/
def holdsTerminator (c : Char) : Bool :=
  (String.utf8EncodeChar c).contains 0x9c

/-! ### Sequences -/

/-- What has been read of a sequence. -/
inductive Sequence where
  /-- The escape character. -/
  | escape
  /-- The escape character and intermediate characters. -/
  | escapeIntermediate
  /-- The beginning of a control sequence, which has parameters. -/
  | control
  /-- The beginning of a device string. -/
  | device
  /-- A device string up to its parameters. -/
  | deviceParameter
  /-- A device string up to its intermediate characters. -/
  | deviceIntermediate
  /-- The contents of a string that the terminator byte ends. -/
  | contents
  /-- The contents of a system command, which the bell ends. -/
  | command
  deriving DecidableEq

/-- Where a reader is. -/
inductive State where
  /-- Outside of any sequence. -/
  | text
  /-- Inside a sequence. -/
  | inside (s : Sequence)
  /-- Inside a sequence that white space has interrupted: the text that follows is shown. -/
  | interrupted (s : Sequence)
  deriving DecidableEq

/-- Whether white space inside a sequence is shown. -/
def Sequence.showsBlanks : Sequence → Bool
  | escape | escapeIntermediate | control => true
  | _ => false

/-- The state after a character that follows the escape character. -/
def Sequence.afterEscape (c : Char) : State :=
  if c = '[' then .inside .control
  else if c = ']' then .inside .command
  else if c = 'P' then .inside .device
  else if c = 'X' || c = '^' || c = '_' then .inside .contents
  else if isIntermediate c then .inside .escapeIntermediate
  else if isParameter c || isFinal c then .text
  else .inside .escape

/-- The state after one more character of a sequence. A character that has no place in the sequence
leaves it as it is. -/
def Sequence.next (s : Sequence) (c : Char) : State :=
  match s with
  | escape => afterEscape c
  | escapeIntermediate => if isParameter c || isFinal c then .text else .inside s
  | control => if isFinal c then .text else .inside s
  | device =>
      if isIntermediate c then .inside .deviceIntermediate
      else if isParameter c then .inside .deviceParameter
      else if isFinal c then .inside .contents
      else .inside s
  | deviceParameter =>
      if isIntermediate c then .inside .deviceIntermediate
      else if isPrivateMark c || isFinal c then .inside .contents
      else .inside s
  | deviceIntermediate => if isParameter c || isFinal c then .inside .contents else .inside s
  | contents => if holdsTerminator c then .text else .inside s
  | command => if c = '\x07' then .text else .inside s

namespace State

/-- The state after one more character that follows white space inside a sequence, and whether it
is shown. A character beyond ASCII ends the sequence, and one that is not shown takes it up again. -/
def resume (s : Sequence) (c : Char) : State × Bool :=
  if isVisible c then (if c.toNat < 0x80 then interrupted s else text, true)
  else (inside s, false)

/-- The state after one more character, and whether it is shown. The escape character begins a
sequence everywhere, and the cancel and substitute characters end one. -/
def step (state : State) (c : Char) : State × Bool :=
  if c = '\x1b' then (inside .escape, false)
  else if c = '\x18' || c = '\x1a' then (text, false)
  else
    match state with
    | text => (text, isVisible c)
    | inside s =>
        if isBlankControl c && s.showsBlanks then (interrupted s, true) else (s.next c, false)
    | interrupted s => resume s c

/-- The state after a text. -/
def after (state : State) (s : List Char) : State :=
  s.foldl (fun state c => (state.step c).1) state

/-- The characters of a text that are shown. -/
def shown (state : State) : List Char → List Char
  | [] => []
  | c :: rest =>
      let (next, visible) := state.step c
      if visible then c :: next.shown rest else next.shown rest

theorem shown_append (state : State) (s t : List Char) :
    state.shown (s ++ t) = state.shown s ++ (state.after s).shown t := by
  induction s generalizing state with
  | nil => rfl
  | cons c rest ih =>
    simp only [List.cons_append, shown, after, List.foldl_cons]
    split
    · rw [ih, after, List.cons_append]
    · rw [ih, after]

/-- A text without control characters is shown as it is. -/
theorem shown_eq_self {s : List Char} (h : ∀ c ∈ s, isVisible c) : text.shown s = s := by
  induction s with
  | nil => rfl
  | cons c rest ih =>
    have hc := h c List.mem_cons_self
    have hstep : text.step c = (text, true) := by
      have : c ≠ '\x1b' ∧ c ≠ '\x18' ∧ c ≠ '\x1a' := by
        refine ⟨?_, ?_, ?_⟩ <;> rintro rfl <;> simp [isVisible, isBlankControl] at hc
      simp [step, this, hc]
    have ih := ih fun d hd => h d (List.mem_cons_of_mem c hd)
    simp only [shown, hstep, ih, if_true]

end State

end Terminal

/-- The characters of a text that are shown. -/
def plain (s : String) : String :=
  String.ofList (Terminal.State.text.shown s.toList)

/-- A style of shown text. -/
inductive Style where
  | bold
  | yellow
  deriving DecidableEq

/-- The sequence that sets a style. -/
def Style.sequence : Style → List Char
  | bold => ['\x1b', '[', '1', 'm']
  | yellow => ['\x1b', '[', '3', '3', 'm']

/-- The sequence that ends all styles. -/
def reset : List Char :=
  ['\x1b', '[', '0', 'm']

/-- A text in a style. -/
def highlighted (style : Style) (s : String) : String :=
  String.ofList (style.sequence ++ s.toList ++ reset)

namespace Terminal.State

/-- Nothing is shown of the sequence that ends all styles, and it ends every open sequence. -/
theorem shown_reset (state : State) (rest : List Char) :
    state.shown (reset ++ rest) = text.shown rest := rfl

/-- Nothing is shown of the sequence that sets a style, and it ends every open sequence. -/
theorem shown_sequence (style : Style) (state : State) (rest : List Char) :
    state.shown (style.sequence ++ rest) = text.shown rest := by
  cases style <;> rfl

/-- Of a highlighted text is shown what is shown of the text alone, whatever sequence it leaves
open. -/
theorem shown_highlighted (style : Style) (s : String) (rest : List Char) :
    text.shown ((highlighted style s).toList ++ rest) =
      text.shown s.toList ++ text.shown rest := by
  rw [highlighted, String.toList_ofList, List.append_assoc, List.append_assoc, shown_sequence,
    shown_append, shown_reset]

end Terminal.State

end Keystroke.Text
