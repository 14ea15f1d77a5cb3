import Keystroke.Proofs.Numeral.Digits
import Keystroke.Text.Quoted
import Mathlib.Algebra.Group.Nat.Even
import Mathlib.Data.List.Induction

/-!
Quoted texts, and how they are read back.

* `Progress.read`, `unescape`: escapes undone, one character after another;
* `Form`, `form_escape`: the three ways in which a character is written;
* `Form.foldlM_read`, `unescape_escaped`: each of them is read as the character, and a quoted text
  as the text that was quoted;
* `Guards`, `guards_of_escaped_eq`: every quote in a quoted text has a backslash of its own before
  it;
* `le_toNat_of_mem_escaped`: nothing below the space is written.

Which characters have a printed form matters nowhere, as long as those below the space have none.
-/

namespace Keystroke.Text

/-! ### Escapes undone -/

/-- How far an escape has been read. -/
inductive Stage where
  /-- There is none: the next character stands for itself, or begins one. -/
  | plain
  /-- Its backslash. -/
  | backslash
  /-- Its backslash and a `u`, which calls for a brace. -/
  | letter
  /-- All of it up to the brace, which calls for a digit. -/
  | brace
  /-- All of it up to digits of this value. -/
  | digits (value : Nat)

/-- What has been read of a quoted text: the characters that are complete, and the stage of the next
one. -/
structure Progress where
  done : List Char := []
  stage : Stage := .plain

/-- The character that a letter stands for behind a backslash. -/
def ofLetter? : Char → Option Char
  | '0' => some '\x00'
  | 't' => some '\t'
  | 'n' => some '\n'
  | 'r' => some '\r'
  | '"' => some '"'
  | '\\' => some '\\'
  | _ => none

/-- The character with a code point, if there is one. -/
def ofCodePoint? (n : Nat) : Option Char :=
  if (Char.ofNat n).toNat = n then some (Char.ofNat n) else none

namespace Progress

/-- One more character is complete. -/
def push (p : Progress) (c : Char) : Progress :=
  { done := p.done ++ [c] }

/-- Reads one character. A quote without a backslash cannot be read. -/
def read (p : Progress) (c : Char) : Option Progress :=
  match p.stage with
  | .plain =>
      if c = '\\' then some { p with stage := .backslash }
      else if c = '"' then none
      else some (p.push c)
  | .backslash =>
      if c = 'u' then some { p with stage := .letter } else (ofLetter? c).map p.push
  | .letter =>
      if c = '\x7b' then some { p with stage := .brace } else none
  | .brace => (Numeral.digit? 16 c).map fun v => { p with stage := .digits v }
  | .digits n =>
      if c = '\x7d' then (ofCodePoint? n).map p.push
      else (Numeral.digit? 16 c).map fun v => { p with stage := .digits (n * 16 + v) }

end Progress

/-- The text that is written with escapes, the last of which must be complete. -/
def unescape (cs : List Char) : Option String :=
  match cs.foldlM Progress.read {} with
  | some ⟨done, .plain⟩ => some (String.ofList done)
  | _ => none

/-! ### Characters as they are written -/

/-- The ways in which a character is written. -/
inductive Form (c : Char) : List Char → Prop where
  /-- A letter stands for it, behind a backslash. -/
  | letter {l : Char} (h : ofLetter? l = some c) : Form c ['\\', l]
  /-- It stands for itself. -/
  | itself (hquote : c ≠ '"') (hbackslash : c ≠ '\\') (h : 0x20 ≤ c.toNat) : Form c [c]
  /-- Its code point stands for it. -/
  | codePoint : Form c (codePointEscape c)

lemma le_toNat_of_isShown {c : Char} (h : isShown c) : 0x20 ≤ c.toNat := by
  rw [isShown] at h
  split_ifs at h
  · exact of_decide_eq_true h
  · omega
  · omega

lemma form_escape (c : Char) : Form c (escape c) := by
  rw [escape]
  split_ifs with hnull htab hfeed hreturn hquote hbackslash hshown
  · subst hnull; exact .letter rfl
  · subst htab; exact .letter rfl
  · subst hfeed; exact .letter rfl
  · subst hreturn; exact .letter rfl
  · subst hquote; exact .letter rfl
  · subst hbackslash; exact .letter rfl
  · exact .itself hquote hbackslash (le_toNat_of_isShown hshown)
  · exact .codePoint

/-! ### Code points -/

/-- A number is written by its last digit, behind those of the others. -/
lemma toDigits_sixteen (n : Nat) :
    n < 16 ∧ Nat.toDigits 16 n = [n.digitChar] ∨
      16 ≤ n ∧ Nat.toDigits 16 n = Nat.toDigits 16 (n / 16) ++ [(n % 16).digitChar] := by
  rcases Nat.lt_or_ge n 16 with h | h
  · exact .inl ⟨h, Nat.toDigits_of_lt_base h⟩
  · exact .inr ⟨h, Nat.toDigits_of_base_le (by decide) h⟩

lemma exists_of_mem_toDigits {n : Nat} {d : Char} (h : d ∈ Nat.toDigits 16 n) :
    ∃ v < 16, d = v.digitChar := by
  induction n using Nat.strongRecOn with
  | ind n ih =>
      rcases toDigits_sixteen n with ⟨hlt, hdigits⟩ | ⟨hge, hdigits⟩ <;> rw [hdigits] at h
      · exact ⟨n, hlt, List.mem_singleton.mp h⟩
      · rcases List.mem_append.mp h with h | h
        · exact ih (n / 16) (by omega) h
        · exact ⟨n % 16, Nat.mod_lt n (by decide), List.mem_singleton.mp h⟩

lemma digit?_digitChar {v : Nat} (h : v < 16) : Numeral.digit? 16 v.digitChar = some v := by
  simp [Numeral.digit?, (Numeral.digitValue?_digitChar v h).1, h]

lemma read_digitChar {done : List Char} {n v : Nat} (h : v < 16) :
    Progress.read ⟨done, .digits n⟩ v.digitChar = some ⟨done, .digits (n * 16 + v)⟩ := by
  have hne : ∀ v < 16, v.digitChar ≠ '\x7d' := by decide
  simp [Progress.read, hne v h, digit?_digitChar h]

/-- The digits of a number are read as the number. -/
lemma foldlM_read_toDigits (done : List Char) (n : Nat) :
    (Nat.toDigits 16 n).foldlM Progress.read ⟨done, .brace⟩ = some ⟨done, .digits n⟩ := by
  induction n using Nat.strongRecOn with
  | ind n ih =>
      rcases toDigits_sixteen n with ⟨hlt, hdigits⟩ | ⟨hge, hdigits⟩ <;> rw [hdigits]
      · simp [Progress.read, digit?_digitChar hlt]
      · rw [List.foldlM_append, ih (n / 16) (by omega)]
        simp [read_digitChar (Nat.mod_lt n (by decide : 0 < 16)), Nat.div_add_mod']

lemma ofCodePoint?_toNat (c : Char) : ofCodePoint? c.toNat = some c := by
  rw [ofCodePoint?, Char.ofNat_toNat, if_pos rfl]

/-! ### Reading what is written -/

/-- A character is read as itself in each of its forms. -/
lemma Form.foldlM_read {c : Char} {cs : List Char} (h : Form c cs) (done : List Char) :
    cs.foldlM Progress.read ⟨done, .plain⟩ = some ⟨done ++ [c], .plain⟩ := by
  cases h with
  | @letter l h =>
      have hne : l ≠ 'u' := by
        rintro rfl
        cases h
      simp [Progress.read, Progress.push, hne, h]
  | itself hquote hbackslash => simp [Progress.read, Progress.push, hquote, hbackslash]
  | codePoint =>
      -- the digits take the reader from the opening brace to the closing one
      show (Nat.toDigits 16 c.toNat ++ ['\x7d']).foldlM Progress.read ⟨done, .brace⟩ = _
      rw [List.foldlM_append, foldlM_read_toDigits]
      simp [Progress.read, Progress.push, ofCodePoint?_toNat]

lemma foldlM_read_escaped (done s : List Char) :
    (escaped s).foldlM Progress.read ⟨done, .plain⟩ = some ⟨done ++ s, .plain⟩ := by
  induction s generalizing done with
  | nil => simp [escaped]
  | cons c s ih =>
      show (escape c ++ escaped s).foldlM Progress.read ⟨done, .plain⟩ = _
      rw [List.foldlM_append, (form_escape c).foldlM_read]
      simpa using ih (done ++ [c])

lemma unescape_escaped (s : String) : unescape (escaped s.toList) = some s := by
  rw [unescape, foldlM_read_escaped]
  simp

/-! ### Quotes and backslashes -/

/-- The number of backslashes at the end of a text. -/
def backslashes (cs : List Char) : Nat :=
  (cs.reverse.takeWhile (· = '\\')).length

/-- A text ends in a backslash that escapes what comes next: those before it go in pairs. -/
def Guards (cs : List Char) : Prop :=
  Odd (backslashes cs)

lemma not_guards_nil : ¬ Guards [] := by
  simp [Guards, backslashes]

lemma guards_concat_iff (cs : List Char) (c : Char) :
    Guards (cs ++ [c]) ↔ c = '\\' ∧ ¬ Guards cs := by
  by_cases h : c = '\\'
  · simp [Guards, backslashes, h, Nat.odd_add_one]
  · simp [Guards, backslashes, h]

/-- A backslash alone begins an escape. -/
lemma guards_backslash : Guards ['\\'] :=
  (guards_concat_iff [] '\\').mpr ⟨rfl, not_guards_nil⟩

/-- Where no escape has been begun, what follows begins its own. -/
lemma guards_append_iff {cs : List Char} (h : ¬ Guards cs) (ds : List Char) :
    Guards (cs ++ ds) ↔ Guards ds := by
  induction ds using List.reverseRecOn with
  | nil => simp [h, not_guards_nil]
  | append_singleton ds d ih => rw [← List.append_assoc, guards_concat_iff, guards_concat_iff, ih]

lemma legible_of_mem_codePointEscape {c d : Char} (h : d ∈ codePointEscape c) :
    0x20 ≤ d.toNat ∧ d ≠ '"' := by
  have hdigit : ∀ v < 16, 0x20 ≤ v.digitChar.toNat ∧ v.digitChar ≠ '"' := by decide
  simp only [codePointEscape, List.mem_cons, List.mem_append, List.not_mem_nil, or_false] at h
  rcases h with rfl | rfl | rfl | h | rfl
  · decide
  · decide
  · decide
  · obtain ⟨v, hv, rfl⟩ := exists_of_mem_toDigits h
    exact hdigit v hv
  · decide

lemma le_toNat_of_ofLetter? {l c : Char} (h : ofLetter? l = some c) : 0x20 ≤ l.toNat := by
  unfold ofLetter? at h
  split at h
  case h_7 => cases h
  all_goals decide

namespace Form

variable {c : Char} {cs : List Char}

lemma le_toNat (h : Form c cs) {d : Char} (hd : d ∈ cs) : 0x20 ≤ d.toNat := by
  cases h with
  | @letter l h =>
      rcases List.mem_cons.mp hd with rfl | hd
      · decide
      · exact List.mem_singleton.mp hd ▸ le_toNat_of_ofLetter? h
  | itself _ _ h => exact List.mem_singleton.mp hd ▸ h
  | codePoint => exact (legible_of_mem_codePointEscape hd).1

/-- The written form of a character is complete: it escapes nothing that follows. -/
lemma not_guards (h : Form c cs) : ¬ Guards cs := by
  cases h with
  | @letter l => exact fun hl => ((guards_concat_iff ['\\'] l).mp hl).2 guards_backslash
  | itself _ hbackslash => exact fun hc => hbackslash ((guards_concat_iff [] c).mp hc).1
  | codePoint =>
      intro h
      cases ((guards_concat_iff ('\\' :: 'u' :: '\x7b' :: Nat.toDigits 16 c.toNat) _).mp h).1

/-- A quote is written by a backslash and a quote. -/
lemma guards_of_eq (h : Form c cs) {before after : List Char} (heq : cs = before ++ '"' :: after) :
    Guards before := by
  cases h with
  | letter =>
      obtain _ | ⟨b, _ | ⟨b', before⟩⟩ := before
      · cases heq
      · cases heq
        exact guards_backslash
      · simp at heq
  | itself hquote =>
      obtain _ | ⟨b, before⟩ := before
      · cases heq
        exact absurd rfl hquote
      · simp at heq
  | codePoint =>
      have hmem : '"' ∈ codePointEscape c := by simp [heq]
      exact absurd rfl (legible_of_mem_codePointEscape hmem).2

end Form

lemma le_toNat_of_mem_escaped {s : List Char} {d : Char} (h : d ∈ escaped s) : 0x20 ≤ d.toNat := by
  obtain ⟨c, -, hd⟩ := List.mem_flatMap.mp h
  exact (form_escape c).le_toNat hd

/-- Every quote among the characters of a quoted text has a backslash of its own before it. -/
lemma guards_of_escaped_eq {s before after : List Char}
    (h : escaped s = before ++ '"' :: after) : Guards before := by
  induction s generalizing before with
  | nil => simp [escaped] at h
  | cons c s ih =>
      change escape c ++ escaped s = before ++ '"' :: after at h
      -- the quote stands behind the first character as it is written, or is a part of it
      rcases List.append_eq_append_iff.mp h with ⟨rest, rfl, hrest⟩ | ⟨rest, hc, hrest⟩
      · rw [guards_append_iff (form_escape c).not_guards]
        exact ih hrest
      · cases rest with
        | nil => exact absurd (@ih [] hrest.symm) not_guards_nil
        | cons d rest =>
            obtain ⟨rfl, -⟩ := List.cons.inj hrest
            exact (form_escape c).guards_of_eq hc

end Keystroke.Text
