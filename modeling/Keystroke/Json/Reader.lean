import Keystroke.Json.Fault

/-!
Reading a JSON text from the front.

* `Json.Step`: what one step of reading gives, a value and the rest of the text or a fault;
* `Json.Reader`: a step that reads one value and always leaves a shorter text;
* `Reader.parse`: reads a whole text, blanks around the value allowed;
* `Json.skipSpace`, `Json.colon`, `Json.word`: the smallest steps;
* `Json.rest_eq`: how the lemmas on the length of the rest use a success.
-/

namespace Keystroke.Json

/-- A value and the rest of the text, or a fault. -/
abbrev Step (α : Type) :=
  Except Fault (α × List Char)

/-- Two successes that are the same leave the same rest. -/
theorem rest_eq {α : Type} {a b : α} {r s : List Char}
    (h : (Except.ok (a, r) : Step α) = Except.ok (b, s)) : r = s :=
  (Prod.mk.inj (Except.ok.inj h)).2

/-- Blanks: space, tab, line feed and carriage return. -/
def isSpace (c : Char) : Bool :=
  c = ' ' || c = '\t' || c = '\n' || c = '\r'

/-- The text after the blanks it begins with. -/
def skipSpace (s : List Char) : List Char :=
  s.dropWhile isSpace

theorem length_skipSpace_le (s : List Char) : (skipSpace s).length ≤ s.length :=
  (List.dropWhile_sublist isSpace).length_le

/-- The text after the blanks is shorter than the text with one character less. -/
theorem length_lt_of_skipSpace {s r : List Char} {c : Char} (h : skipSpace s = c :: r) :
    r.length < s.length := by
  have := length_skipSpace_le s
  simp only [h, List.length_cons] at this
  omega

/-- Reads one value. What is left of the text is shorter than the text. -/
structure Reader (α : Type) where
  run : List Char → Step α
  length_lt : ∀ {s : List Char} {a : α} {r : List Char}, run s = .ok (a, r) → r.length < s.length

namespace Reader

/-- Reads a value and turns it into another one. -/
def map {α β : Type} (f : α → β) (reader : Reader α) : Reader β where
  run s :=
    match reader.run s with
    | .ok (a, r) => .ok (f a, r)
    | .error e => .error e
  length_lt {s b r} h := by
    split at h
    · rename_i h'
      exact rest_eq h ▸ reader.length_lt h'
    · simp at h

/-- Reads a text that holds one value and nothing after it but blanks. -/
def parseChars {α : Type} (reader : Reader α) (s : List Char) : Except Fault α :=
  match reader.run s with
  | .error f => .error f
  | .ok (a, r) =>
      match skipSpace r with
      | [] => .ok a
      | rest => .error (.next .trailingCharacters rest)

/-- Reads a whole text. -/
def parse {α : Type} (reader : Reader α) (text : String) : Except Error α :=
  match reader.parseChars text.toList with
  | .ok a => .ok a
  | .error f => .error (f.locate text.toList)

end Reader

/-- The text after a colon. -/
def colon (s : List Char) : Except Fault (List Char) :=
  match skipSpace s with
  | [] => .error (.next .endInObject [])
  | ':' :: r => .ok r
  | rest => .error (.next .expectedColon rest)

theorem length_lt_of_colon {s r : List Char} (h : colon s = .ok r) : r.length < s.length := by
  rw [colon] at h
  split at h
  · simp at h
  · rename_i h'
    exact Except.ok.inj h ▸ length_lt_of_skipSpace h'
  · simp at h

/-- The text after the rest of a word, each of its characters looked at in turn. -/
def word : List Char → List Char → Except Fault (List Char)
  | [], s => .ok s
  | _ :: _, [] => .error (.here .endInValue [])
  | expected :: more, c :: r =>
      if c = expected then word more r else .error (.next .expectedWord (c :: r))

theorem length_le_of_word {letters s r : List Char} (h : word letters s = .ok r) :
    r.length ≤ s.length := by
  fun_induction word letters s with
  | case1 => simp_all
  | case2 => simp at h
  | case3 expected more r' ih => have := ih h; simp; omega
  | case4 => simp at h

end Keystroke.Json
