import Keystroke.Json.Compact
import Keystroke.Proofs.Json.Decoding

/-!
Written tokens, with any blanks between them.

* `Spaced`: a text that has given tokens in order, and blanks besides;
* `Writes`: tokens that a value with a given property comes of, however they are spaced;
* `writes_nameToken`, `writes_codeToken`, `writes_objectTokens`: the tokens of names, codes and
  objects;
* `Faithful`: what it means that a way of writing values agrees with a way of reading them, and
  `Writes.faithful`, where this comes from.
-/

namespace Keystroke.Json

/-! ### Spaced tokens -/

/-- A text that has the given tokens in order, with blanks before, between and behind them. -/
inductive Spaced : List String → List Char → Prop where
  | nil (bs : List Blank) : Spaced [] (blanks bs)
  | cons (bs : List Blank) {token : String} {tokens : List String} {s : List Char}
      (h : Spaced tokens s) : Spaced (token :: tokens) (blanks bs ++ (token.toList ++ s))

namespace Spaced

variable {token : String} {tokens : List String} {s : List Char}

lemma exists_nil (h : Spaced [] s) : ∃ bs, s = blanks bs := by
  cases h with
  | nil bs => exact ⟨bs, rfl⟩

lemma exists_cons (h : Spaced (token :: tokens) s) :
    ∃ bs s', s = blanks bs ++ (token.toList ++ s') ∧ Spaced tokens s' := by
  cases h with
  | cons bs h => exact ⟨bs, _, rfl, h⟩

/-- The compact text has no blanks at all. -/
lemma compact (tokens : List String) : Spaced tokens (compact tokens).toList := by
  induction tokens with
  | nil => exact .nil []
  | cons token tokens ih =>
      have hcons : (Json.compact (token :: tokens)).toList =
          blanks [] ++ (token.toList ++ (Json.compact tokens).toList) := by
        simp [Json.compact, blanks]
      exact hcons ▸ .cons [] ih

end Spaced

/-- However the given tokens are spaced and whatever follows them, they are the text of a value with
a property. -/
def Writes (tokens : List String) (P : Value → Prop) : Prop :=
  ∀ ⦃rest : List String⦄ ⦃s : List Char⦄, Spaced (tokens ++ rest) s →
    ∃ bs v s', s = blanks bs ++ (v.text ++ s') ∧ Spaced rest s' ∧ P v

lemma Writes.imp {tokens : List String} {P Q : Value → Prop} (h : Writes tokens P)
    (himp : ∀ v, P v → Q v) : Writes tokens Q := by
  intro rest s hs
  obtain ⟨bs, v, s', htext, hrest, hv⟩ := h hs
  exact ⟨bs, v, s', htext, hrest, himp v hv⟩

lemma Writes.of_token {token : String} {v : Value} {P : Value → Prop} (h : v.text = token.toList)
    (hv : P v) : Writes [token] P := by
  intro rest s hs
  obtain ⟨bs, s', rfl, hrest⟩ := hs.exists_cons
  exact ⟨bs, v, s', by rw [h], hrest, hv⟩

/-! ### Names -/

/-- Nothing in a name has to be escaped. -/
def Unescaped (name : String) : Prop :=
  ∀ c ∈ name.toList, 0x20 ≤ c.toNat ∧ c ≠ '"' ∧ c ≠ '\\'

instance (name : String) : Decidable (Unescaped name) :=
  List.decidableBAll _ name.toList

/-- Characters that need no escape stand for themselves. -/
lemma exists_text_units (cs : List Char)
    (h : ∀ c ∈ cs, 0x20 ≤ c.toNat ∧ c ≠ '"' ∧ c ≠ '\\') :
    ∃ s : StringText, s.text = cs ∧ s.units = Text.utf16 cs := by
  induction cs with
  | nil => exact ⟨[], rfl, rfl⟩
  | cons c cs ih =>
      obtain ⟨s, htext, hunits⟩ := ih fun d hd => h d (by simp [hd])
      refine ⟨.plain ⟨c, h c (by simp)⟩ :: s, ?_, ?_⟩
      · rw [StringText.text_cons, htext]
        rfl
      · rw [StringText.units_cons, hunits]
        rfl

lemma exists_spells {name : String} (h : Unescaped name) :
    ∃ s : StringText, s.quoted = (nameToken name).toList ∧ s.Spells name := by
  obtain ⟨s, htext, hunits⟩ := exists_text_units name.toList h
  exact ⟨s, by simp [StringText.quoted, nameToken, htext], hunits⟩

lemma writes_nameToken {name : String} (h : Unescaped name) :
    Writes [nameToken name] fun v => v.Names name := by
  obtain ⟨s, hquoted, hspells⟩ := exists_spells h
  exact .of_token (v := .string s) hquoted (.string hspells)

/-! ### Codes -/

lemma digitChar_eq : ∀ d : Digit, Nat.digitChar d = d.char := by
  decide

lemma Digits.value_concat (c d : Digit) (ds : List Digit) :
    Digits.value ⟨c, ds ++ [d]⟩ = Digits.value ⟨c, ds⟩ * 10 + d := by
  simp [Digits.value, Digits.toList]

lemma Digits.text_concat (c d : Digit) (ds : List Digit) :
    Digits.text ⟨c, ds ++ [d]⟩ = Digits.text ⟨c, ds⟩ ++ [d.char] := by
  simp [Digits.text, Digits.toList]

lemma Whole.value_of_head_eq_zero {w : Whole} (h : w.head = 0) : w.value = 0 := by
  simp [Digits.value, Digits.toList, h, w.canonical h]

/-- A number is the value of its decimal digits, which have no nought before them. -/
lemma exists_whole (n : Nat) : ∃ w : Whole, w.text = Nat.toDigits 10 n ∧ w.value = n := by
  induction n using Nat.strongRecOn with
  | ind n ih =>
      let d : Digit := .ofNat n
      have hval : d.val = n % 10 := rfl
      have hchar : Nat.digitChar (n % 10) = d.char := digitChar_eq d
      rcases Nat.lt_or_ge n 10 with hlt | hge
      · refine ⟨⟨⟨d, []⟩, fun _ => rfl⟩, ?_, ?_⟩
        · rw [Nat.toDigits_of_lt_base hlt, ← Nat.mod_eq_of_lt hlt, hchar]
          rfl
        · simp [Digits.value, Digits.toList, hval, Nat.mod_eq_of_lt hlt]
      · obtain ⟨w, htext, hvalue⟩ := ih (n / 10) (by omega)
        have hhead : w.head ≠ 0 := by
          intro hzero
          have := Whole.value_of_head_eq_zero hzero
          omega
        refine ⟨⟨⟨w.head, w.tail ++ [d]⟩, fun h => absurd h hhead⟩, ?_, ?_⟩
        · rw [Nat.toDigits_of_base_le (by decide) hge, ← htext, hchar]
          exact Digits.text_concat _ _ _
        · calc Digits.value ⟨w.head, w.tail ++ [d]⟩
              = w.value * 10 + d := Digits.value_concat _ _ _
            _ = n := by omega

lemma writes_codeToken (c : Code) : Writes [codeToken c] fun v => v.IsCode c := by
  obtain ⟨w, htext, hvalue⟩ := exists_whole c.toNat
  refine .of_token (v := .number ⟨false, w, none, none⟩) ?_ ⟨_, rfl, ⟨rfl, rfl, rfl⟩, hvalue⟩
  simp [Value.text, NumberText.text, NumberText.tailText, htext, codeToken]

/-! ### Objects -/

/-- A member to be written: its name, the tokens of its value and what this means. -/
structure Part where
  name : String
  tokens : List String
  Meaning : Value → Prop

namespace Part

/-- The tokens of a member may be written as they are. -/
structure Proper (p : Part) : Prop where
  unescaped : Unescaped p.name
  writes : Writes p.tokens p.Meaning

/-- The name and the tokens. -/
def member (p : Part) : String × List String :=
  (p.name, p.tokens)

/-- A member of an object is what was to be written. -/
def Holds (p : Part) (m : Member Value) : Prop :=
  m.name.Spells p.name ∧ p.Meaning m.value

lemma exists_spells_of_holds {ps : List Part} {ms : List (Member Value)}
    (h : List.Forall₂ Holds ps ms) : ∀ m ∈ ms, ∃ name, m.name.Spells name := by
  induction h with
  | nil => simp
  | cons hm _ ih => exact List.forall_mem_cons.mpr ⟨⟨_, hm.1⟩, ih⟩

/-- The tokens of members, with a comma before each but the first. -/
def tokensOf (first : Bool) : List Part → List String
  | [] => []
  | p :: ps => (if first then [] else [","]) ++ memberTokens p.member ++ tokensOf false ps

lemma intercalate_memberTokens (p : Part) (ps : List Part) :
    [","].intercalate ((p :: ps).map (memberTokens ∘ member)) =
      memberTokens p.member ++ tokensOf false ps := by
  induction ps generalizing p with
  | nil => simp [tokensOf]
  | cons q ps ih =>
      rw [List.map_cons, List.map_cons, List.intercalate_cons_cons, ← List.map_cons, ih]
      simp [tokensOf]

lemma objectTokens_eq (ps : List Part) :
    objectTokens (ps.map member) = "\x7b" :: tokensOf true ps ++ ["\x7d"] := by
  rw [objectTokens, List.map_map]
  cases ps with
  | nil => rfl
  | cons p ps =>
      rw [intercalate_memberTokens]
      simp [tokensOf]

variable {rest : List String} {s : List Char}

/-- The blanks behind the value of a member belong to what follows it. -/
lemma Proper.exists_member {p : Part} (hp : p.Proper)
    (h : Spaced (memberTokens p.member ++ rest) s) :
    ∃ m s', p.Holds m ∧ Spaced rest s' ∧ s = blanks m.beforeName ++ (m.name.quoted ++
      (blanks m.afterName ++ ':' :: (blanks m.beforeValue ++ (m.value.text ++ s')))) := by
  obtain ⟨beforeName, s₁, rfl, h₁⟩ := h.exists_cons
  obtain ⟨afterName, s₂, rfl, h₂⟩ := h₁.exists_cons
  obtain ⟨beforeValue, v, s₃, rfl, h₃, hv⟩ := hp.writes h₂
  obtain ⟨name, hquoted, hspells⟩ := exists_spells hp.unescaped
  refine ⟨⟨beforeName, name, afterName, beforeValue, v, []⟩, s₃, ⟨hspells, hv⟩, h₃, ?_⟩
  rw [hquoted]
  rfl

/-- Members are written one after another, with the comma that is due before each. -/
lemma exists_members {ps : List Part} (hps : ∀ p ∈ ps, p.Proper) {first : Bool}
    (h : Spaced (tokensOf first ps ++ "\x7d" :: rest) s) :
    ∃ bs ms s', s = blanks bs ++ (Value.membersText first ms ++ '\x7d' :: s') ∧ Spaced rest s' ∧
      List.Forall₂ Holds ps ms := by
  induction ps generalizing first s with
  | nil =>
      obtain ⟨bs, s', rfl, hrest⟩ := h.exists_cons
      exact ⟨bs, [], s', rfl, hrest, .nil⟩
  | cons p ps ih =>
      obtain ⟨bs, s₁, rfl, h₁⟩ : ∃ bs s₁, s = blanks bs ++ (comma first ++ s₁) ∧
          Spaced (memberTokens p.member ++ (tokensOf false ps ++ "\x7d" :: rest)) s₁ := by
        cases first with
        | true => exact ⟨[], s, rfl, by simpa [tokensOf] using h⟩
        | false =>
            have hcomma : Spaced
                ("," :: (memberTokens p.member ++ (tokensOf false ps ++ "\x7d" :: rest))) s := by
              simpa [tokensOf] using h
            exact hcomma.exists_cons
      obtain ⟨m, s₂, hm, h₂, rfl⟩ := (hps p (by simp)).exists_member h₁
      obtain ⟨after, ms, s', rfl, hrest, hms⟩ := ih (fun q hq => hps q (by simp [hq])) h₂
      exact ⟨bs, { m with after } :: ms, s', by rw [Value.membersText_cons_append], hrest,
        .cons hm hms⟩

end Part

/-- **Objects**: the tokens of an object are those of an object with the members in order. -/
theorem writes_objectTokens {ps : List Part} (hps : ∀ p ∈ ps, p.Proper) :
    Writes (objectTokens (ps.map Part.member)) fun v =>
      ∃ inner ms, v = .object inner ms ∧ List.Forall₂ Part.Holds ps ms := by
  intro rest s h
  rw [Part.objectTokens_eq] at h
  obtain ⟨bs, s₁, rfl, h₁⟩ := h.exists_cons
  obtain ⟨inner, ms, s', rfl, hrest, hms⟩ := Part.exists_members hps (by simpa using h₁)
  refine ⟨bs, .object inner ms, s', ?_, hrest, inner, ms, rfl, hms⟩
  rw [Value.object_text_append]
  rfl

/-! ### Writing and reading -/

section

variable {α : Type}

/-- The compact form of what a text is read as. -/
def normalForm (tokens : α → List String) (read : String → Except Error α) (text : String) :
    Except Error String :=
  (read text).map fun a => compact (tokens a)

/-- A way of writing values agrees with a way of reading them: what is written is read as what was
to be written, however it is spaced; and the compact form is one normal form for all the texts that
are read as the same value. -/
structure Faithful (tokens : α → List String) (read : String → Except Error α) : Prop where
  spaced : ∀ a (text : String), Spaced (tokens a) text.toList → read text = .ok a
  readBack : ∀ text a, read text = .ok a → read (compact (tokens a)) = .ok a
  idempotent : ∀ text n, normalForm tokens read text = .ok n → normalForm tokens read n = .ok n
  same_iff : ∀ text text', (∃ a, read text = .ok a ∧ read text' = .ok a) ↔
    ∃ n, normalForm tokens read text = .ok n ∧ normalForm tokens read text' = .ok n
  injective : Function.Injective fun a => Json.compact (tokens a)

variable {tokens : α → List String} {read : String → Except Error α}

lemma normalForm_eq_ok_iff {text n : String} :
    normalForm tokens read text = .ok n ↔ ∃ a, read text = .ok a ∧ compact (tokens a) = n := by
  rw [normalForm]
  cases read text <;> simp [Except.map]

/-- The rest follows once written tokens are read back. -/
lemma Faithful.of_spaced
    (h : ∀ a (text : String), Spaced (tokens a) text.toList → read text = .ok a) :
    Faithful tokens read := by
  have hcompact : ∀ a, read (Json.compact (tokens a)) = .ok a := fun a => h a _ (.compact _)
  have hinj : Function.Injective fun a => Json.compact (tokens a) := by
    intro a b hab
    have hread := hcompact a
    rw [show Json.compact (tokens a) = Json.compact (tokens b) from hab, hcompact b] at hread
    exact (Except.ok.inj hread).symm
  refine ⟨h, fun _ a _ => hcompact a, ?_, ?_, hinj⟩
  · intro text n hn
    obtain ⟨a, -, rfl⟩ := normalForm_eq_ok_iff.mp hn
    exact normalForm_eq_ok_iff.mpr ⟨a, hcompact a, rfl⟩
  · intro text text'
    simp only [normalForm_eq_ok_iff]
    constructor
    · rintro ⟨a, h, h'⟩
      exact ⟨_, ⟨a, h, rfl⟩, a, h', rfl⟩
    · rintro ⟨_, ⟨a, h, rfl⟩, b, h', hab⟩
      obtain rfl := hinj hab
      exact ⟨_, h, h'⟩

/-- **Written values are read back** by a reader that reads what their tokens are the text of. -/
theorem Writes.faithful {reader : Reader α} {Den : Value → α → Prop} (hd : reader.Decodes Den)
    (hw : ∀ a, Writes (tokens a) fun v => Den v a) : Faithful tokens reader.parse := by
  refine .of_spaced fun a text h => ?_
  rw [← List.append_nil (tokens a)] at h
  obtain ⟨before, v, s', htext, hs', hv⟩ := hw a h
  obtain ⟨after, rfl⟩ := hs'.exists_nil
  have hdoc : text = String.ofList (Document.text ⟨before, v, after⟩) :=
    (String.ofList_toList.symm.trans (congrArg String.ofList htext))
  exact hdoc ▸ hd.parse_eq_ok_iff.mpr hv

end

end Keystroke.Json
