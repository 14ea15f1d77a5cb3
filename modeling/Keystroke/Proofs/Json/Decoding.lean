import Keystroke.Json.Code
import Keystroke.Json.Variant
import Keystroke.Proofs.Json.Skipping

/-!
Readers on the values of a document.

* `Reader.Decodes`: a reader reads the values that a relation gives a meaning, and no others;
  `Decodes.parse_eq_ok_iff` is what this makes of a whole document;
* `Value.IsCode`, `codeReader_decodes`: codes;
* `Value.Names`, `Variants.reader_decodes`: variants.
-/

namespace Keystroke.Json

/-! ### Readers -/

namespace Reader

variable {α β : Type} {reader : Reader α} {Den : Value → α → Prop}

/-- A reader reads a value if and only if the relation gives it a meaning, and as what it means,
whatever blanks stand before it and whatever ends it. -/
def Decodes (reader : Reader α) (Den : Value → α → Prop) : Prop :=
  ∀ v bs rest, Ends rest → Gives (reader.run (blanks bs ++ (v.text ++ rest))) (Den v) rest

/-- What a reader reads a value as. -/
def Reads (reader : Reader α) (v : Value) (a : α) : Prop :=
  reader.run v.text = .ok (a, [])

lemma Decodes.reads_iff (h : reader.Decodes Den) {v : Value} {a : α} :
    reader.Reads v a ↔ Den v a := by
  have hv := h v [] [] Ends.nil a []
  rw [List.append_nil] at hv
  exact hv.trans (and_iff_left rfl)

lemma Decodes.reads (h : reader.Decodes Den) : reader.Decodes reader.Reads := by
  intro v bs rest hrest a r
  rw [h.reads_iff]
  exact h v bs rest hrest a r

lemma Decodes.map (h : reader.Decodes Den) (f : α → β) :
    (reader.map f).Decodes fun v b => ∃ a, Den v a ∧ f a = b := by
  intro v bs rest hrest
  simp only [Reader.map]
  rcases (h v bs rest hrest).cases with ⟨a, hrun, ha, huniq⟩ | ⟨e, hrun, hno⟩
  · rw [hrun]
    refine gives_ok ⟨a, ha, rfl⟩ ?_
    rintro b ⟨a', ha', rfl⟩
    rw [huniq a' ha']
  · rw [hrun]
    refine gives_error ?_
    rintro b ⟨a, ha, -⟩
    exact hno a ha

lemma Decodes.map_reads_iff (h : reader.Decodes Den) {f : α → β} {v : Value} {b : β} :
    (reader.map f).Reads v b ↔ ∃ a, Den v a ∧ f a = b :=
  (h.map f).reads_iff

lemma skipSpace_after (bs : List Blank) : skipSpace (blanks bs) = [] := by
  have h := skipSpace_blanks bs []
  rwa [List.append_nil] at h

/-- **Documents**: a whole document is read as what its value means. -/
theorem Decodes.parse_eq_ok_iff (h : reader.Decodes Den) {d : Document} {a : α} :
    reader.parse (String.ofList d.text) = .ok a ↔ Den d.value a := by
  have hends : Ends (blanks d.after) := by
    simpa using Ends.nil.blanks d.after
  rw [parse, String.toList_ofList, parseChars, Document.text]
  rcases (h d.value d.before _ hends).cases with ⟨b, hrun, hb, huniq⟩ | ⟨f, hrun, hno⟩
  · simp only [hrun, skipSpace_after]
    constructor
    · rintro ⟨⟩
      exact hb
    · intro ha
      rw [huniq a ha]
  · simp only [hrun]
    exact ⟨fun h' => by simp at h', fun ha => absurd ha (hno a)⟩

end Reader

/-! ### Codes -/

/-- A value is a code: a number without sign, point and exponent with its value. -/
def Value.IsCode (v : Value) (c : Code) : Prop :=
  ∃ n : NumberText, v = .number n ∧ n.IsPlain ∧ n.whole.value = c.toNat

/-- What a value that is no number begins with. -/
lemma Value.exists_number_or_head (v : Value) :
    (∃ n, v = .number n) ∨ ∃ c t, v.text = c :: t ∧ ¬(c = '-' ∨ isDigit c = true) := by
  cases v with
  | number n => exact .inl ⟨n, rfl⟩
  | null => exact .inr ⟨_, _, rfl, by decide⟩
  | boolean b => cases b <;> exact .inr ⟨_, _, rfl, by decide⟩
  | string s => exact .inr ⟨_, _, rfl, by decide⟩
  | list inner items => exact .inr ⟨_, _, rfl, by decide⟩
  | object inner members => exact .inr ⟨_, _, rfl, by decide⟩

lemma gives_number_text {n : NumberText} {rest : List Char} (h : Ends rest) :
    Gives (number (n.text ++ rest)) (fun x => n.literal.value rest = .ok x) rest := by
  rw [number, read_text n h]
  dsimp only
  cases n.literal.value rest with
  | error f => exact gives_error fun x hx => by simp at hx
  | ok y => exact gives_ok rfl fun x hx => (Except.ok.inj hx).symm

lemma codeOfNumber_eq_ok_iff {n : Number} (rest : List Char) {c : Code} :
    codeOfNumber n rest = .ok c ↔ n = .natural c.toNat := by
  cases n with
  | natural m =>
      rw [codeOfNumber, Number.natural.injEq]
      split
      · rename_i h
        rw [Except.ok.injEq, ← UInt16.toNat_inj, UInt16.toNat_ofNatLT]
      · rename_i h
        refine ⟨fun h' => by simp at h', fun h' => ?_⟩
        exact absurd c.toNat_lt_size (h' ▸ h)
  | negative m => simp [codeOfNumber]
  | floating b x => simp [codeOfNumber]

/-- Where a number stands, a code is read if and only if the number is valued as one. -/
lemma readCode_eq_ok_iff {s t r : List Char} {d : Char} {c : Code} (hs : skipSpace s = d :: t)
    (hd : d = '-' ∨ isDigit d = true) :
    readCode s = .ok (c, r) ↔ number (d :: t) = .ok (.natural c.toNat, r) := by
  rw [readCode, hs]
  simp only [if_pos hd]
  cases number (d :: t) with
  | error f => simp
  | ok p =>
      obtain ⟨x, r'⟩ := p
      have hx := codeOfNumber_eq_ok_iff (n := x) r' (c := c)
      rw [Except.ok.injEq, Prod.mk.injEq, ← hx]
      dsimp only
      cases codeOfNumber x r' with
      | error f => simp
      | ok c' => rw [Except.ok.injEq, Prod.mk.injEq, Except.ok.injEq]

lemma isCode_number_iff {n : NumberText} (rest : List Char) {c : Code} :
    (Value.number n).IsCode c ↔ n.literal.value rest = .ok (.natural c.toNat) := by
  have hc : c.toNat < UInt64.size := Nat.lt_trans c.toNat_lt_size (by decide)
  rw [value_literal_eq_natural_iff]
  constructor
  · rintro ⟨_, ⟨⟩, hplain, hvalue⟩
    exact ⟨hplain, hvalue, hc⟩
  · rintro ⟨hplain, hvalue, -⟩
    exact ⟨n, rfl, hplain, hvalue⟩

/-- **Codes** are read where they stand. -/
theorem codeReader_decodes : codeReader.Decodes Value.IsCode := by
  intro v bs rest hrest c r
  show readCode (blanks bs ++ (v.text ++ rest)) = .ok (c, r) ↔ v.IsCode c ∧ r = rest
  have hspace := skipSpace_text bs v rest
  rcases v.exists_number_or_head with ⟨n, rfl⟩ | ⟨d, t, ht, hd⟩
  · rw [isCode_number_iff rest, ← gives_number_text hrest _ _]
    obtain ⟨d, t, ht, hd⟩ := n.exists_head
    change _ = n.text ++ rest at hspace
    rw [ht, List.cons_append] at hspace ⊢
    exact readCode_eq_ok_iff hspace hd
  · rw [readCode, hspace, ht, List.cons_append]
    simp only [if_neg hd]
    refine ⟨fun h => by simp at h, ?_⟩
    rintro ⟨⟨n, rfl, -⟩, -⟩
    obtain ⟨d', t', ht', hd'⟩ := n.exists_head
    have heq : d' :: t' = d :: t := ht'.symm.trans ht
    exact absurd ((List.cons.inj heq).1 ▸ hd') hd

/-! ### Variants -/

/-- A value names a variant: it is a string that spells the name, or an object whose only member has
that name and is null. -/
inductive Value.Names (name : String) : Value → Prop where
  | string {s : StringText} (h : s.Spells name) : Names name (.string s)
  | object {inner : List Blank} {m : Member Value} (h : m.name.Spells name)
      (hnull : m.value = .null) : Names name (.object inner [m])

lemma Value.Names.unique {v : Value} {n n' : String} (h : v.Names n) (h' : v.Names n') : n = n' := by
  cases h with
  | string h =>
      cases h' with
      | string h' => exact h.unique h'
  | object h _ =>
      cases h' with
      | object h' _ => exact h.unique h'

namespace Variants

variable {α : Type} {v : Variants α}

/-- Every value of the type is listed, and no two have the same name. -/
structure Proper (v : Variants α) : Prop where
  mem_all : ∀ a, a ∈ v.all
  name_inj : ∀ {a b}, v.name a = v.name b → a = b

lemma Proper.ofName_eq_ok_iff (hv : v.Proper) {name : String} {rest : List Char} {a : α} :
    v.ofName name rest = .ok a ↔ name = v.name a := by
  rw [ofName]
  cases hf : v.all.find? fun a => v.name a = name with
  | none =>
      have hne := List.find?_eq_none.mp hf a (hv.mem_all a)
      refine ⟨fun h => by simp at h, fun h => ?_⟩
      exact absurd h.symm (by simpa using hne)
  | some b =>
      have hb : v.name b = name := by simpa using List.find?_some hf
      constructor
      · rintro ⟨⟩
        exact hb.symm
      · intro h
        exact congrArg Except.ok (hv.name_inj (hb.trans h))

lemma Proper.gives_readName_text (hv : v.Proper) (s : StringText) (rest : List Char) :
    Gives (v.readName (s.text ++ '"' :: rest)) (fun a => s.Spells (v.name a)) rest := by
  rw [readName]
  rcases (gives_stringBody_text s rest).cases with ⟨cs, hb, hs, -⟩ | ⟨f, hb, hno⟩
  · have hname : ∀ a, v.ofName (String.ofList cs) rest = .ok a ↔ s.Spells (v.name a) := by
      intro a
      rw [hv.ofName_eq_ok_iff]
      exact ⟨fun h => h ▸ hs, hs.unique⟩
    rw [hb]
    simp only [← hname]
    cases v.ofName (String.ofList cs) rest with
    | error f => exact gives_error fun a ha => by simp at ha
    | ok b => exact gives_ok rfl fun a ha => (Except.ok.inj ha).symm
  · rw [hb]
    refine gives_error fun a ha => hno (v.name a).toList ?_
    rwa [String.ofList_toList]

end Variants

/-- The null of a variant is the only value read there. -/
lemma readNull_text_eq_ok_iff {v : Value} {bs : List Blank} {rest r : List Char} :
    readNull (blanks bs ++ (v.text ++ rest)) = .ok r ↔ v = .null ∧ r = rest := by
  rw [readNull, skipSpace_text]
  cases v with
  | null =>
      show word ['u', 'l', 'l'] ('u' :: 'l' :: 'l' :: rest) = .ok r ↔ Value.null = .null ∧ r = rest
      simp only [word, if_true, Except.ok.injEq, true_and]
      exact eq_comm
  | number n =>
      obtain ⟨c, t, ht, hc⟩ := n.exists_head
      have hne : c ≠ 'n' := ne_of_number hc (by decide)
      have htext : (Value.number n).text ++ rest = c :: (t ++ rest) := congrArg (· ++ rest) ht
      rw [htext]
      split <;> simp_all
  | boolean b => cases b <;> simp [Value.text]
  | string s => simp [Value.text, StringText.quoted_append]
  | list inner items => simp [Value.text]
  | object inner members => simp [Value.text]

lemma closeVariant_text_eq_ok_iff {ms : List (Member Value)} {bs : List Blank}
    {rest r : List Char} :
    closeVariant (blanks bs ++ (Value.membersText false ms ++ '\x7d' :: rest)) = .ok r ↔
      ms = [] ∧ r = rest := by
  cases ms with
  | nil =>
      show closeVariant (blanks bs ++ '\x7d' :: rest) = .ok r ↔ [] = [] ∧ r = rest
      rw [closeVariant, skipSpace_blanks_cons bs (by decide)]
      simp only [Except.ok.injEq, true_and]
      exact eq_comm
  | cons m ms =>
      rw [Value.membersText_cons_append, comma_false_append, closeVariant,
        skipSpace_blanks_cons bs (by decide)]
      simp

lemma readVariantTail_text_eq_ok_iff {v : Value} {ms : List (Member Value)}
    {bs bs' bs'' : List Blank} {rest r : List Char} :
    readVariantTail (blanks bs ++ ':' :: (blanks bs' ++ (v.text ++
      (blanks bs'' ++ (Value.membersText false ms ++ '\x7d' :: rest))))) = .ok r ↔
        v = .null ∧ ms = [] ∧ r = rest := by
  rw [readVariantTail, colon_text]
  dsimp only
  constructor
  · intro h
    split at h
    · simp at h
    · rename_i r' hr'
      obtain ⟨rfl, rfl⟩ := readNull_text_eq_ok_iff.mp hr'
      exact ⟨rfl, closeVariant_text_eq_ok_iff.mp h⟩
  · rintro ⟨rfl, hms⟩
    rw [readNull_text_eq_ok_iff.mpr ⟨rfl, rfl⟩]
    exact closeVariant_text_eq_ok_iff.mpr hms

namespace Variants

variable {α : Type} {v : Variants α}

/-- Where a quote stands, the name of a variant is read and then what follows it. -/
lemma readObject_eq_ok_iff {s t r : List Char} {a : α} (hs : skipSpace s = '"' :: t) :
    v.readObject s = .ok (a, r) ↔
      ∃ r₁, v.readName t = .ok (a, r₁) ∧ readVariantTail r₁ = .ok r := by
  rw [readObject, hs]
  simp only
  cases v.readName t with
  | error f => simp
  | ok p =>
      obtain ⟨b, r₁⟩ := p
      dsimp only
      cases ht : readVariantTail r₁ with
      | error f =>
          refine ⟨fun h => by simp at h, ?_⟩
          rintro ⟨_, ⟨⟩, h⟩
          simp [ht] at h
      | ok r₂ =>
          constructor
          · rintro ⟨⟩
            exact ⟨r₁, rfl, ht⟩
          · rintro ⟨_, ⟨⟩, h⟩
            rw [ht] at h
            rw [Except.ok.inj h]

lemma Proper.gives_readObject_text (hv : v.Proper) (inner : List Blank)
    (ms : List (Member Value)) (rest : List Char) :
    Gives (v.readObject (blanks inner ++ (Value.membersText true ms ++ '\x7d' :: rest)))
      (fun a => (Value.object inner ms).Names (v.name a)) rest := by
  intro a r
  cases ms with
  | nil =>
      show v.readObject (blanks inner ++ '\x7d' :: rest) = .ok (a, r) ↔ _
      rw [readObject, skipSpace_blanks_cons inner (by decide)]
      exact ⟨fun h => by simp at h, fun h => by cases h.1⟩
  | cons m ms =>
      rw [Value.membersText_cons_append, comma_true_append, StringText.quoted_append,
        readObject_eq_ok_iff
          ((skipSpace_blanks inner _).trans (skipSpace_blanks_cons m.beforeName (by decide) _))]
      simp only [hv.gives_readName_text m.name _ a _]
      constructor
      · rintro ⟨_, ⟨hspells, rfl⟩, htail⟩
        obtain ⟨hnull, rfl, rfl⟩ := readVariantTail_text_eq_ok_iff.mp htail
        exact ⟨.object hspells hnull, rfl⟩
      · rintro ⟨⟨⟩, rfl⟩
        rename_i hspells hnull
        exact ⟨_, ⟨hspells, rfl⟩, readVariantTail_text_eq_ok_iff.mpr ⟨hnull, rfl, rfl⟩⟩

/-- **Variants** are read where they are named. -/
theorem Proper.reader_decodes (hv : v.Proper) : v.reader.Decodes fun w a => w.Names (v.name a) := by
  intro w bs rest _ a r
  show v.read (blanks bs ++ (w.text ++ rest)) = .ok (a, r) ↔ w.Names (v.name a) ∧ r = rest
  rw [read, skipSpace_text]
  cases w with
  | null => exact ⟨fun h => by simp [Value.text] at h, fun h => by cases h.1⟩
  | boolean b =>
      exact ⟨fun h => by cases b <;> simp [Value.text] at h, fun h => by cases h.1⟩
  | list inner items => exact ⟨fun h => by simp [Value.text] at h, fun h => by cases h.1⟩
  | number n =>
      obtain ⟨c, t, ht, hc⟩ := n.exists_head
      have hquote : c ≠ '"' := ne_of_number hc (by decide)
      have hbrace : c ≠ '\x7b' := ne_of_number hc (by decide)
      have htext : (Value.number n).text ++ rest = c :: (t ++ rest) := congrArg (· ++ rest) ht
      rw [htext]
      refine ⟨fun h => ?_, fun h => by cases h.1⟩
      split at h <;> simp_all
  | string s =>
      have htext : (Value.string s).text ++ rest = '"' :: (s.text ++ '"' :: rest) :=
        s.quoted_append rest
      rw [htext]
      refine (hv.gives_readName_text s rest a r).trans (and_congr_left fun _ => ?_)
      exact ⟨.string, fun h => by cases h; assumption⟩
  | object inner ms =>
      rw [Value.object_text_append]
      exact hv.gives_readObject_text inner ms rest a r

end Variants

end Keystroke.Json
