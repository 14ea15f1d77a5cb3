import Keystroke.Proofs.Json.Extension
import Keystroke.Proofs.Json.Records

/-!
A text that is read as a value, and the texts that it begins.

* `skipSpace_eq_nil_iff`: what is skipped to the end is blanks;
* `Reader.Steady`, `Reader.Closed`: more text does not change what is read, if something is left
  behind it or in any case;
* `codeReader_steady`, `Variants.reader_closed`, `Record.reader_closed`: codes end where something
  else begins, variants and records end by themselves;
* `Reader.Closed.parse_append_eq_ok_iff`: only blanks may follow a text that a closed reader reads.
-/

namespace Keystroke.Json

variable {s r : List Char}

/-! ### Blanks -/

lemma exists_blank_of_isSpace {c : Char} (h : isSpace c = true) : ∃ b : Blank, c = b.char := by
  simp only [isSpace, Bool.or_eq_true, decide_eq_true_eq] at h
  rcases h with ((rfl | rfl) | rfl) | rfl
  · exact ⟨.space, rfl⟩
  · exact ⟨.tab, rfl⟩
  · exact ⟨.lineFeed, rfl⟩
  · exact ⟨.carriageReturn, rfl⟩

/-- Blanks are skipped to the end, and nothing else is. -/
lemma skipSpace_eq_nil_iff : skipSpace s = [] ↔ ∃ bs : List Blank, s = blanks bs := by
  constructor
  · intro h
    induction s with
    | nil => exact ⟨[], rfl⟩
    | cons c s ih =>
        rw [skipSpace, List.dropWhile_cons] at h
        split_ifs at h with hc
        obtain ⟨b, rfl⟩ := exists_blank_of_isSpace hc
        obtain ⟨bs, rfl⟩ := ih h
        exact ⟨b :: bs, rfl⟩
  · rintro ⟨bs, rfl⟩
    exact Reader.skipSpace_after bs

/-! ### Readers -/

namespace Reader

variable {α β : Type} {reader : Reader α}

/-- More text does not change what is read where something is left behind it. -/
def Steady (reader : Reader α) : Prop :=
  ∀ ⦃s : List Char⦄ ⦃a : α⦄ ⦃r : List Char⦄, reader.run s = .ok (a, r) → r ≠ [] →
    ∀ t, reader.run (s ++ t) = .ok (a, r ++ t)

/-- More text does not change what is read. -/
def Closed (reader : Reader α) : Prop :=
  ∀ ⦃s : List Char⦄ ⦃a : α⦄ ⦃r : List Char⦄, reader.run s = .ok (a, r) →
    ∀ t, reader.run (s ++ t) = .ok (a, r ++ t)

lemma Closed.steady (h : reader.Closed) : reader.Steady :=
  fun _ _ _ hs _ => h hs

lemma Steady.map (h : reader.Steady) (f : α → β) : (reader.map f).Steady := by
  intro s b r hs hr t
  simp only [Reader.map] at hs ⊢
  split at hs
  · rename_i ha
    obtain ⟨rfl, rfl⟩ := Prod.mk.inj (Except.ok.inj hs)
    rw [h ha hr]
  · simp at hs

/-- A whole text is read if only blanks are left behind a value. -/
lemma parse_eq_ok_iff {text : String} {a : α} :
    reader.parse text = .ok a ↔ ∃ r, reader.run text.toList = .ok (a, r) ∧ skipSpace r = [] := by
  rw [parse, parseChars]
  cases hrun : reader.run text.toList with
  | error f => simp
  | ok p =>
      obtain ⟨b, r⟩ := p
      dsimp only
      cases hr : skipSpace r with
      | nil => simp_all
      | cons c r' => simp_all

/-- **Only blanks may follow**: a text that is read as a value may be continued by blanks, which
leave the value as it is, and by nothing else. -/
theorem Closed.parse_append_eq_ok_iff (hc : reader.Closed) {text more : String} {a b : α}
    (h : reader.parse text = .ok a) :
    reader.parse (text ++ more) = .ok b ↔ (∃ bs : List Blank, more.toList = blanks bs) ∧ b = a := by
  obtain ⟨r, hrun, hr⟩ := parse_eq_ok_iff.mp h
  have hmore := hc hrun more.toList
  rw [← skipSpace_eq_nil_iff, ← skipSpace_append_of_nil hr]
  rw [parse_eq_ok_iff, String.toList_append, hmore]
  constructor
  · rintro ⟨r', heq, hr'⟩
    obtain ⟨rfl, rfl⟩ := Prod.mk.inj (Except.ok.inj heq)
    exact ⟨hr', rfl⟩
  · rintro ⟨hblank, rfl⟩
    exact ⟨_, rfl, hblank⟩

end Reader

/-! ### Codes -/

/-- The value of a number that is one of the natural numbers does not depend on what follows. -/
lemma number_extend {n : Nat} (h : number s = .ok (.natural n, r)) (hr : r ≠ []) (t : List Char) :
    number (s ++ t) = .ok (.natural n, r ++ t) := by
  rw [number] at h
  split at h
  · simp at h
  · rename_i l r' hl
    split at h
    · simp at h
    · rename_i x hx
      obtain ⟨rfl, rfl⟩ := Prod.mk.inj (Except.ok.inj h)
      have hx' : l.value (r' ++ t) = .ok (.natural n) :=
        value_eq_natural_iff.mpr (value_eq_natural_iff.mp hx)
      rw [number, Literal.read_extend hl hr]
      simp only [hx']

/-- A code begins like a number. -/
lemma exists_head_of_readCode {c : Code} (h : readCode s = .ok (c, r)) :
    ∃ d t, skipSpace s = d :: t ∧ (d = '-' ∨ isDigit d = true) := by
  rw [readCode] at h
  split at h
  · simp at h
  · rename_i d t hs
    split_ifs at h with hd
    exact ⟨d, t, hs, hd⟩

theorem codeReader_steady : codeReader.Steady := by
  intro s c r h hr t
  obtain ⟨d, u, hs, hd⟩ := exists_head_of_readCode h
  have hnumber := (readCode_eq_ok_iff hs hd).mp h
  exact (readCode_eq_ok_iff (skipSpace_extend hs t) hd).mpr (number_extend hnumber hr t)

/-! ### Variants -/

lemma readNull_extend (h : readNull s = .ok r) (t : List Char) :
    readNull (s ++ t) = .ok (r ++ t) := by
  rw [readNull] at h
  split at h
  · simp at h
  · rename_i hs
    rw [readNull, skipSpace_extend hs]
    exact word_extend h t
  · simp at h

lemma closeVariant_extend (h : closeVariant s = .ok r) (t : List Char) :
    closeVariant (s ++ t) = .ok (r ++ t) := by
  rw [closeVariant] at h
  split at h
  · simp at h
  · rename_i hs
    obtain rfl := Except.ok.inj h
    rw [closeVariant, skipSpace_extend hs]
    rfl
  · simp at h

lemma readVariantTail_extend (h : readVariantTail s = .ok r) (t : List Char) :
    readVariantTail (s ++ t) = .ok (r ++ t) := by
  rw [readVariantTail] at h
  split at h
  · simp at h
  · rename_i hc
    split at h
    · simp at h
    · rename_i hn
      rw [readVariantTail, colon_extend hc]
      simp only [readNull_extend hn]
      exact closeVariant_extend h t

namespace Variants

variable {α : Type} {v : Variants α} {a : α}

lemma ofName_rest {name : String} {rest rest' : List Char} (h : v.ofName name rest = .ok a) :
    v.ofName name rest' = .ok a := by
  rw [ofName] at h ⊢
  split at h
  · exact h
  · simp at h

lemma readName_extend (h : v.readName s = .ok (a, r)) (t : List Char) :
    v.readName (s ++ t) = .ok (a, r ++ t) := by
  rw [readName] at h
  split at h
  · simp at h
  · rename_i hb
    split at h
    · simp at h
    · rename_i hn
      obtain ⟨rfl, rfl⟩ := Prod.mk.inj (Except.ok.inj h)
      rw [readName, stringBody_extend hb]
      simp only [ofName_rest hn]

lemma readObject_extend (h : v.readObject s = .ok (a, r)) (t : List Char) :
    v.readObject (s ++ t) = .ok (a, r ++ t) := by
  have hs : ∃ u, skipSpace s = '"' :: u := by
    rw [readObject] at h
    split at h
    · simp at h
    · exact ⟨_, ‹_›⟩
    · simp at h
    · simp at h
  obtain ⟨u, hs⟩ := hs
  obtain ⟨r₁, hname, htail⟩ := (readObject_eq_ok_iff hs).mp h
  exact (readObject_eq_ok_iff (skipSpace_extend hs t)).mpr
    ⟨r₁ ++ t, readName_extend hname t, readVariantTail_extend htail t⟩

/-- A variant ends with a quote or a brace. -/
theorem reader_closed (v : Variants α) : v.reader.Closed := by
  intro s a r h t
  change v.read s = _ at h
  show v.read (s ++ t) = _
  rw [read] at h
  split at h
  · simp at h
  · rename_i hs
    rw [read, skipSpace_extend hs]
    exact readName_extend h t
  · rename_i hs
    rw [read, skipSpace_extend hs]
    exact readObject_extend h t
  · simp at h

end Variants

/-! ### Records -/

namespace Record

variable {σ α : Type} {k : Record σ α}

lemma nameFrom_extend {name : Option String} (h : nameFrom s = .ok (name, r)) (t : List Char) :
    nameFrom (s ++ t) = .ok (name, r ++ t) := by
  unfold nameFrom at h
  split at h
  · simp at h
  · rename_i r'
    split at h
    · simp at h
    · rename_i hb
      obtain ⟨rfl, rfl⟩ := Prod.mk.inj (Except.ok.inj h)
      show nameFrom ('"' :: (r' ++ t)) = _
      simp only [nameFrom, stringBody_extend hb]
  · simp at h
  · simp at h

/-- Where no brace stands, a name comes next. -/
lemma nextName_of_ne {first : Bool} {c : Char} (hs : skipSpace s = c :: r) (hc : c ≠ '\x7d') :
    nextName first s =
      if first then nameFrom (c :: r)
      else if c = ',' then nameFrom (skipSpace r)
      else .error (.next .expectedObjectCommaOrEnd (c :: r)) := by
  rw [nextName, hs]
  split <;> simp_all

lemma nextName_extend {first : Bool} {name : Option String} (h : nextName first s = .ok (name, r))
    (t : List Char) : nextName first (s ++ t) = .ok (name, r ++ t) := by
  rw [nextName] at h
  split at h
  · simp at h
  · rename_i hs
    obtain ⟨rfl, rfl⟩ := Prod.mk.inj (Except.ok.inj h)
    exact nextName_end (skipSpace_extend hs t)
  · rename_i c r' hbrace hs
    rw [nextName_of_ne (skipSpace_extend hs t) hbrace]
    split_ifs at h ⊢ with hfirst hcomma
    · exact nameFrom_extend h t
    · have hne : skipSpace r' ≠ [] := by
        intro hu
        rw [hu] at h
        cases h
      obtain ⟨d, u, hu⟩ := List.exists_cons_of_ne_nil hne
      rw [hu] at h
      rw [skipSpace_extend hu]
      exact nameFrom_extend h t

variable (k) in
/-- More text does not change how the fields are read where something is left behind them. -/
def SteadyFields : Prop :=
  ∀ f ∈ k.fields, f.value.Steady

lemma memberValue_extend (hk : k.SteadyFields) {draft draft' : σ} {name : String}
    (h : k.memberValue draft name s = .ok (draft', r)) (hr : r ≠ []) (t : List Char) :
    k.memberValue draft name (s ++ t) = .ok (draft', r ++ t) := by
  rw [memberValue] at h ⊢
  cases hf : k.field? name with
  | some f =>
      simp only [hf] at h ⊢
      split_ifs at h ⊢ with hset
      split at h
      · simp at h
      · rename_i hc
        split at h
        · simp at h
        · rename_i hv
          obtain ⟨rfl, rfl⟩ := Prod.mk.inj (Except.ok.inj h)
          simp only [colon_extend hc, hk f (List.mem_of_find?_eq_some hf) hv hr]
  | none =>
      simp only [hf] at h ⊢
      split at h
      · simp at h
      · rename_i hc
        split at h
        · simp at h
        · rename_i hv
          obtain ⟨rfl, rfl⟩ := Prod.mk.inj (Except.ok.inj h)
          simp only [colon_extend hc, skipValue_extend hv hr]

lemma nextMember_none_extend {first : Bool} {draft : σ}
    (h : k.nextMember first draft s = .ok (none, r)) (t : List Char) :
    k.nextMember first draft (s ++ t) = .ok (none, r ++ t) := by
  rw [nextMember] at h
  split at h
  · simp at h
  · rename_i hn
    obtain ⟨-, rfl⟩ := Prod.mk.inj (Except.ok.inj h)
    rw [nextMember, nextName_extend hn]
  · split at h <;> simp at h

lemma nextMember_some_extend (hk : k.SteadyFields) {first : Bool} {draft draft' : σ}
    (h : k.nextMember first draft s = .ok (some draft', r)) (hr : r ≠ []) (t : List Char) :
    k.nextMember first draft (s ++ t) = .ok (some draft', r ++ t) := by
  rw [nextMember] at h
  split at h
  · simp at h
  · simp at h
  · rename_i hn
    split at h
    · simp at h
    · rename_i hv
      simp only [Except.ok.injEq, Prod.mk.injEq, Option.some_inj] at h
      obtain ⟨rfl, rfl⟩ := h
      rw [nextMember, nextName_extend hn]
      simp only [memberValue_extend hk hv hr]

/-- An object ends with its brace, so that something is left behind each of its members. -/
lemma members_extend (hk : k.SteadyFields) {first : Bool} {draft draft' : σ}
    (h : k.members first draft s = .ok (draft', r)) (t : List Char) :
    k.members first draft (s ++ t) = .ok (draft', r ++ t) := by
  fun_induction members k first draft s with
  | case1 => simp at h
  | case2 first draft s r' hn =>
    obtain ⟨rfl, rfl⟩ := Prod.mk.inj (Except.ok.inj h)
    exact members_of_none (nextMember_none_extend hn t)
  | case3 first draft s draft₁ r₁ hn ih =>
    have hr₁ : r₁ ≠ [] := by
      rintro rfl
      exact Nat.not_lt_zero _ (k.length_lt_of_members h)
    rw [members_of_some (nextMember_some_extend hk hn hr₁ t)]
    exact ih h

lemma nextElement_extend {first more : Bool} (h : nextElement first s = .ok (more, r))
    (t : List Char) : nextElement first (s ++ t) = .ok (more, r ++ t) := by
  rw [nextElement] at h
  split at h
  · simp at h
  · rename_i hs
    obtain ⟨rfl, rfl⟩ := Prod.mk.inj (Except.ok.inj h)
    exact nextElement_end (skipSpace_extend hs t)
  · rename_i c r' hbracket hs
    split_ifs at h with hfirst hcomma
    · obtain ⟨rfl, rfl⟩ := Prod.mk.inj (Except.ok.inj h)
      rw [hfirst]
      exact nextElement_first (skipSpace_extend hs t) hbracket
    · split at h
      · simp at h
      · simp at h
      · rename_i hend hnext
        obtain ⟨rfl, rfl⟩ := Prod.mk.inj (Except.ok.inj h)
        obtain ⟨d, u, hu⟩ := List.exists_cons_of_ne_nil hend
        have hd : d ≠ ']' := by
          rintro rfl
          exact hnext u hu
        rw [Bool.eq_false_iff.mpr hfirst, hu]
        exact nextElement_comma (hcomma ▸ skipSpace_extend hs t) (skipSpace_extend hu t) hd

lemma closeList_extend (h : closeList s = .ok r) (t : List Char) :
    closeList (s ++ t) = .ok (r ++ t) := by
  rw [closeList] at h
  split at h
  · simp at h
  · rename_i hs
    obtain rfl := Except.ok.inj h
    exact closeList_end (skipSpace_extend hs t)
  · split at h <;> simp at h
  · simp at h

/-- An array goes on with another element or a bracket. -/
lemma ne_nil_of_elements {count : Nat} {fields : List (Field σ)} {draft draft' : σ}
    (h : k.elements count fields draft s = .ok (draft', r)) : s ≠ [] := by
  rintro rfl
  cases fields <;> cases h

/-- An array ends with its bracket, so that something is left behind each of its elements. -/
lemma elements_extend {count : Nat} {fields : List (Field σ)} (hk : ∀ f ∈ fields, f.value.Steady)
    {draft draft' : σ} (h : k.elements count fields draft s = .ok (draft', r)) (t : List Char) :
    k.elements count fields draft (s ++ t) = .ok (draft', r ++ t) := by
  induction fields generalizing count draft s with
  | nil =>
      rw [elements] at h
      split at h
      · simp at h
      · rename_i hc
        obtain ⟨rfl, rfl⟩ := Prod.mk.inj (Except.ok.inj h)
        rw [elements, closeList_extend hc]
  | cons f fields ih =>
      rw [elements] at h
      split at h
      · simp at h
      · rename_i hn
        split_ifs at h with hfinish
        obtain ⟨rfl, rfl⟩ := Prod.mk.inj (Except.ok.inj h)
        rw [elements, nextElement_extend hn]
        simp only [hfinish, if_true]
      · rename_i hn
        split at h
        · simp at h
        · rename_i set r' hv
          have hv' := hk f (by simp) hv (ne_nil_of_elements h) t
          rw [elements, nextElement_extend hn]
          simp only [hv']
          exact ih (fun g hg => hk g (by simp [hg])) h

lemma readObject_extend (hk : k.SteadyFields) {a : α} (h : k.readObject s = .ok (a, r))
    (t : List Char) : k.readObject (s ++ t) = .ok (a, r ++ t) := by
  rw [readObject] at h
  split at h
  · simp at h
  · rename_i hm
    split at h
    · rename_i hfinish
      obtain ⟨rfl, rfl⟩ := Prod.mk.inj (Except.ok.inj h)
      rw [readObject, members_extend hk hm]
      simp only [hfinish]
    · simp at h

lemma readArray_extend (hk : k.SteadyFields) {a : α} (h : k.readArray s = .ok (a, r))
    (t : List Char) : k.readArray (s ++ t) = .ok (a, r ++ t) := by
  rw [readArray] at h
  split at h
  · simp at h
  · rename_i hm
    split at h
    · rename_i hfinish
      obtain ⟨rfl, rfl⟩ := Prod.mk.inj (Except.ok.inj h)
      rw [readArray, elements_extend hk hm]
      simp only [hfinish]
    · simp at h

/-- **Records** end with a brace or a bracket. -/
theorem reader_closed (hk : k.SteadyFields) : k.reader.Closed := by
  intro s a r h t
  change k.read s = _ at h
  show k.read (s ++ t) = _
  rw [read] at h
  split at h
  · simp at h
  · rename_i hs
    rw [read, skipSpace_extend hs]
    exact readObject_extend hk h t
  · rename_i hs
    rw [read, skipSpace_extend hs]
    exact readArray_extend hk h t
  · simp at h

end Record

end Keystroke.Json
