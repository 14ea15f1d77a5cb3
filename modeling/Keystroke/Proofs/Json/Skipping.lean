import Keystroke.Json.Skip
import Keystroke.Proofs.Json.Numbers
import Keystroke.Proofs.Json.Strings

/-!
Values of a document, skipped.

* `skipSpace_blanks`, `skipSpace_text`: the blanks between tokens and where they end;
* `colon_text`, `skipName_text`: the tokens between the values of an object;
* `Value.Skips`: a value is skipped, whatever containers are open around it;
* `skips`, `skipValue_text`: every value of a document is skipped.
-/

namespace Keystroke.Json

/-! ### Between tokens -/

lemma isSpace_char (b : Blank) : isSpace b.char = true := by
  cases b <;> rfl

lemma skipSpace_blanks (bs : List Blank) (s : List Char) :
    skipSpace (blanks bs ++ s) = skipSpace s := by
  induction bs with
  | nil => rfl
  | cons b bs ih => exact (List.dropWhile_cons_of_pos (isSpace_char b)).trans ih

lemma skipSpace_cons {c : Char} (h : isSpace c = false) (r : List Char) :
    skipSpace (c :: r) = c :: r :=
  List.dropWhile_cons_of_neg (by simp [h])

lemma skipSpace_blanks_cons (bs : List Blank) {c : Char} (h : isSpace c = false) (r : List Char) :
    skipSpace (blanks bs ++ c :: r) = c :: r :=
  (skipSpace_blanks bs _).trans (skipSpace_cons h r)

lemma Ends.cons {c : Char} (h : isDigit c = false ∧ c ≠ '.' ∧ c ≠ 'e' ∧ c ≠ 'E')
    (r : List Char) : Ends (c :: r) := by
  intro d hd
  obtain rfl : c = d := by simpa using hd
  exact h

lemma Ends.blanks (bs : List Blank) {rest : List Char} (h : Ends rest) :
    Ends (blanks bs ++ rest) := by
  cases bs with
  | nil => exact h
  | cons b bs =>
      refine Ends.cons ?_ _
      cases b <;> decide

lemma colon_text (bs : List Blank) (rest : List Char) :
    colon (blanks bs ++ ':' :: rest) = .ok rest := by
  rw [colon, skipSpace_blanks_cons bs (by decide)]
  rfl

lemma skipName_text (before after : List Blank) (name : StringText) (rest : List Char) :
    skipName (blanks before ++ (name.quoted ++ (blanks after ++ ':' :: rest))) = .ok rest := by
  rw [skipName, StringText.quoted_append, skipSpace_blanks_cons before (by decide)]
  simp only [skipString_text]
  exact colon_text after rest

/-- What a number begins with. -/
lemma NumberText.exists_head (n : NumberText) :
    ∃ c t, n.text = c :: t ∧ (c = '-' ∨ isDigit c = true) := by
  cases hn : n.negative with
  | true => exact ⟨'-', n.whole.text ++ n.tailText, by simp [NumberText.text, hn], .inl rfl⟩
  | false =>
      refine ⟨n.whole.head.char, n.whole.tail.map Digit.char ++ n.tailText, ?_,
        .inr (isDigit_char _)⟩
      simp [NumberText.text, hn, Digits.text, Digits.toList]

lemma ne_of_number {c d : Char} (hc : c = '-' ∨ isDigit c = true)
    (hd : d ≠ '-' ∧ isDigit d = false) : c ≠ d := by
  rintro rfl
  rcases hc with rfl | hc
  · exact hd.1 rfl
  · simp [hd.2] at hc

/-- What a value begins with can be taken neither for a blank nor for what stands between
values. -/
lemma Value.exists_head (v : Value) :
    ∃ c t, v.text = c :: t ∧ isSpace c = false ∧ c ≠ ',' ∧ c ≠ ']' ∧ c ≠ '\x7d' := by
  cases v with
  | null => exact ⟨_, _, rfl, by decide⟩
  | boolean b => cases b <;> exact ⟨_, _, rfl, by decide⟩
  | string s => exact ⟨_, _, rfl, by decide⟩
  | list inner items => exact ⟨_, _, rfl, by decide⟩
  | object inner members => exact ⟨_, _, rfl, by decide⟩
  | number n =>
      obtain ⟨c, t, ht, hc⟩ := n.exists_head
      refine ⟨c, t, ht, ?_, ne_of_number hc (by decide), ne_of_number hc (by decide),
        ne_of_number hc (by decide)⟩
      have hspace : c ≠ ' ' ∧ c ≠ '\t' ∧ c ≠ '\n' ∧ c ≠ '\r' :=
        ⟨ne_of_number hc (by decide), ne_of_number hc (by decide), ne_of_number hc (by decide),
          ne_of_number hc (by decide)⟩
      simp [isSpace, hspace]

lemma skipSpace_text (bs : List Blank) (v : Value) (rest : List Char) :
    skipSpace (blanks bs ++ (v.text ++ rest)) = v.text ++ rest := by
  obtain ⟨c, t, ht, hc, -⟩ := v.exists_head
  rw [ht, List.cons_append]
  exact skipSpace_blanks_cons bs hc _

lemma ends_itemsText (items : List (Item Value)) (rest : List Char) :
    Ends (Value.itemsText false items ++ ']' :: rest) := by
  cases items with
  | nil => exact Ends.cons (by decide) _
  | cons i items => exact Ends.cons (by decide) _

lemma ends_membersText (ms : List (Member Value)) (rest : List Char) :
    Ends (Value.membersText false ms ++ '\x7d' :: rest) := by
  cases ms with
  | nil => exact Ends.cons (by decide) _
  | cons m ms => exact Ends.cons (by decide) _

/-! ### Open containers -/

/-- Skipping on with the containers that a step has left open. -/
def resume : Step (List Container) → Except Fault (List Char)
  | .error f => .error f
  | .ok ([], r) => .ok r
  | .ok (k :: outer, r) => skipFrom (k :: outer) r

lemma skipFrom_eq_resume (stack : List Container) (s : List Char) :
    skipFrom stack s = resume (skipOne stack s) := by
  rw [skipFrom]
  split <;> rename_i h <;> rw [h] <;> rfl

/-- A value is skipped: what follows is taken up behind it. -/
def Value.Skips (v : Value) : Prop :=
  ∀ stack bs rest, Ends rest →
    skipFrom stack (blanks bs ++ (v.text ++ rest)) = resume (afterValue stack rest)

/-- A value that neither is nor opens a container. -/
lemma Value.skips_of_scalar {v : Value}
    (h : ∀ rest, Ends rest → skipScalar (v.text ++ rest) = .ok rest)
    (hopen : ∀ rest r, v.text ++ rest ≠ '[' :: r ∧ v.text ++ rest ≠ '\x7b' :: r) : v.Skips := by
  intro stack bs rest hrest
  rw [skipFrom_eq_resume, skipOne, skipSpace_text]
  split
  · rename_i r hr
    exact absurd hr (hopen rest r).1
  · rename_i r hr
    exact absurd hr (hopen rest r).2
  · rw [h rest hrest]

lemma afterValue_comma {k : Container} {outer : List Container} {s r r' : List Char}
    (h : skipSpace s = ',' :: r) (he : enterMember k r = .ok r') :
    afterValue (k :: outer) s = .ok (k :: outer, r') := by
  rw [afterValue, h]
  simp only [if_true, he]

lemma afterValue_closer {k : Container} {outer : List Container} {s r : List Char}
    (h : skipSpace s = k.closer :: r) : afterValue (k :: outer) s = afterValue outer r := by
  have hk : k.closer ≠ ',' := by cases k <;> decide
  rw [afterValue, h]
  simp only [hk, if_false, if_true]

lemma openContainer_closer {k : Container} {stack : List Container} {s r : List Char}
    (h : skipSpace s = k.closer :: r) : openContainer k stack s = afterValue stack r := by
  rw [openContainer, h]
  simp only [if_true]

lemma openContainer_enter {k : Container} {stack : List Container} {s r r' : List Char} {c : Char}
    (h : skipSpace s = c :: r) (hc : c ≠ k.closer) (he : enterMember k (c :: r) = .ok r') :
    openContainer k stack s = .ok (k :: stack, r') := by
  rw [openContainer, h]
  simp only [hc, if_false, he]

/-- An array that has elements is open from the first one on. -/
lemma openContainer_list (stack : List Container) (inner before : List Blank) (v : Value)
    (t : List Char) : openContainer .list stack (blanks inner ++ (blanks before ++ (v.text ++ t)))
      = .ok (.list :: stack, v.text ++ t) := by
  have hspace := (skipSpace_blanks inner _).trans (skipSpace_text before v t)
  obtain ⟨c, t', hv, -, -, hc, -⟩ := v.exists_head
  rw [hv, List.cons_append] at hspace ⊢
  exact openContainer_enter hspace hc rfl

/-- An object that has members is open from the value of the first one on. -/
lemma openContainer_object (stack : List Container) (inner before after : List Blank)
    (name : StringText) (t : List Char) :
    openContainer .object stack
      (blanks inner ++ (blanks before ++ (name.quoted ++ (blanks after ++ ':' :: t))))
      = .ok (.object :: stack, t) := by
  have hname := skipName_text [] after name t
  rw [StringText.quoted_append] at hname ⊢
  exact openContainer_enter
    ((skipSpace_blanks inner _).trans (skipSpace_blanks_cons before (by decide) _))
    (by decide) hname

lemma skipOne_list (stack : List Container) (bs : List Blank) (s : List Char) :
    skipOne stack (blanks bs ++ '[' :: s) = openContainer .list stack s := by
  rw [skipOne, skipSpace_blanks_cons bs (by decide)]
  rfl

lemma skipOne_object (stack : List Container) (bs : List Blank) (s : List Char) :
    skipOne stack (blanks bs ++ '\x7b' :: s) = openContainer .object stack s := by
  rw [skipOne, skipSpace_blanks_cons bs (by decide)]
  rfl

/-! ### Values -/

/-- Behind an element, the other elements are skipped up to the bracket that closes the array. -/
lemma resume_items (items : List (Item Value)) (h : ∀ i ∈ items, i.value.Skips)
    (stack : List Container) (bs : List Blank) (rest : List Char) :
    resume (afterValue (.list :: stack)
      (blanks bs ++ (Value.itemsText false items ++ ']' :: rest)))
      = resume (afterValue stack rest) := by
  induction items generalizing bs with
  | nil =>
      have hclose := skipSpace_blanks_cons bs (c := ']') (by decide) rest
      exact congrArg resume (afterValue_closer (k := .list) hclose)
  | cons i items ih =>
      have hends := (ends_itemsText items rest).blanks i.after
      rw [Value.itemsText_cons_append, comma_false_append,
        afterValue_comma (skipSpace_blanks_cons bs (by decide) _) (enterMember.eq_1 _)]
      calc resume (.ok (.list :: stack, blanks i.before ++ (i.value.text ++
              (blanks i.after ++ (Value.itemsText false items ++ ']' :: rest)))))
          = skipFrom (.list :: stack) (blanks i.before ++ (i.value.text ++
              (blanks i.after ++ (Value.itemsText false items ++ ']' :: rest)))) := rfl
        _ = resume (afterValue (.list :: stack)
              (blanks i.after ++ (Value.itemsText false items ++ ']' :: rest))) :=
            h i (by simp) _ _ _ hends
        _ = resume (afterValue stack rest) := ih (fun i hi => h i (by simp [hi])) i.after

/-- Behind a member, the other members are skipped up to the brace that closes the object. -/
lemma resume_members (ms : List (Member Value)) (h : ∀ m ∈ ms, m.value.Skips)
    (stack : List Container) (bs : List Blank) (rest : List Char) :
    resume (afterValue (.object :: stack)
      (blanks bs ++ (Value.membersText false ms ++ '\x7d' :: rest)))
      = resume (afterValue stack rest) := by
  induction ms generalizing bs with
  | nil =>
      have hclose := skipSpace_blanks_cons bs (c := '\x7d') (by decide) rest
      exact congrArg resume (afterValue_closer (k := .object) hclose)
  | cons m ms ih =>
      have hends := (ends_membersText ms rest).blanks m.after
      have hname := skipName_text m.beforeName m.afterName m.name (blanks m.beforeValue ++
        (m.value.text ++ (blanks m.after ++ (Value.membersText false ms ++ '\x7d' :: rest))))
      rw [Value.membersText_cons_append, comma_false_append,
        afterValue_comma (k := .object) (skipSpace_blanks_cons bs (by decide) _) hname]
      calc resume (.ok (.object :: stack, blanks m.beforeValue ++ (m.value.text ++
              (blanks m.after ++ (Value.membersText false ms ++ '\x7d' :: rest)))))
          = skipFrom (.object :: stack) (blanks m.beforeValue ++ (m.value.text ++
              (blanks m.after ++ (Value.membersText false ms ++ '\x7d' :: rest)))) := rfl
        _ = resume (afterValue (.object :: stack)
              (blanks m.after ++ (Value.membersText false ms ++ '\x7d' :: rest))) :=
            h m (by simp) _ _ _ hends
        _ = resume (afterValue stack rest) := ih (fun m hm => h m (by simp [hm])) m.after

/-- What begins like a number is skipped as a number. -/
lemma skipScalar_of_number {c : Char} (hc : c = '-' ∨ isDigit c = true) (t : List Char) :
    skipScalar (c :: t) = skipNumber (c :: t) := by
  unfold skipScalar
  split
  · rename_i h
    exact absurd h (by simp)
  -- the letters that other scalars begin with
  · rename_i h
    exact absurd (List.cons.inj h).1 (ne_of_number hc (by decide))
  · rename_i h
    exact absurd (List.cons.inj h).1 (ne_of_number hc (by decide))
  · rename_i h
    exact absurd (List.cons.inj h).1 (ne_of_number hc (by decide))
  · rename_i h
    exact absurd (List.cons.inj h).1 (ne_of_number hc (by decide))
  · rename_i h
    obtain ⟨rfl, rfl⟩ := List.cons.inj h
    rw [if_pos hc]

lemma skips_number (n : NumberText) : (Value.number n).Skips := by
  obtain ⟨c, t, ht, hc⟩ := n.exists_head
  refine Value.skips_of_scalar (fun rest hrest => ?_) fun rest r => ?_
  · show skipScalar (n.text ++ rest) = .ok rest
    have hskip := skipNumber_text n hrest
    rw [ht, List.cons_append] at hskip ⊢
    exact (skipScalar_of_number hc _).trans hskip
  · show n.text ++ rest ≠ '[' :: r ∧ n.text ++ rest ≠ '\x7b' :: r
    rw [ht]
    exact ⟨fun h => ne_of_number hc (by decide) (List.cons.inj h).1,
      fun h => ne_of_number hc (by decide) (List.cons.inj h).1⟩

lemma skips_string (s : StringText) : (Value.string s).Skips := by
  refine Value.skips_of_scalar (fun rest _ => ?_) fun rest r => by
    simp [Value.text, StringText.quoted_append]
  show skipScalar (s.quoted ++ rest) = .ok rest
  rw [StringText.quoted_append]
  exact skipString_text s rest

lemma skips_list (inner : List Blank) (items : List (Item Value))
    (h : ∀ i ∈ items, i.value.Skips) : (Value.list inner items).Skips := by
  intro stack bs rest hrest
  rw [Value.list_text_append, skipFrom_eq_resume, skipOne_list]
  cases items with
  | nil =>
      have hclose := skipSpace_blanks_cons inner (c := ']') (by decide) rest
      exact congrArg resume (openContainer_closer (k := .list) hclose)
  | cons i items =>
      have hends := (ends_itemsText items rest).blanks i.after
      rw [Value.itemsText_cons_append, comma_true_append, openContainer_list]
      calc resume (.ok (.list :: stack, i.value.text ++
              (blanks i.after ++ (Value.itemsText false items ++ ']' :: rest))))
          = skipFrom (.list :: stack) (blanks [] ++ (i.value.text ++
              (blanks i.after ++ (Value.itemsText false items ++ ']' :: rest)))) := rfl
        _ = resume (afterValue (.list :: stack)
              (blanks i.after ++ (Value.itemsText false items ++ ']' :: rest))) :=
            h i (by simp) _ [] _ hends
        _ = resume (afterValue stack rest) :=
            resume_items items (fun i hi => h i (by simp [hi])) stack i.after rest

lemma skips_object (inner : List Blank) (ms : List (Member Value))
    (h : ∀ m ∈ ms, m.value.Skips) : (Value.object inner ms).Skips := by
  intro stack bs rest hrest
  rw [Value.object_text_append, skipFrom_eq_resume, skipOne_object]
  cases ms with
  | nil =>
      have hclose := skipSpace_blanks_cons inner (c := '\x7d') (by decide) rest
      exact congrArg resume (openContainer_closer (k := .object) hclose)
  | cons m ms =>
      have hends := (ends_membersText ms rest).blanks m.after
      rw [Value.membersText_cons_append, comma_true_append, openContainer_object]
      calc resume (.ok (.object :: stack, blanks m.beforeValue ++ (m.value.text ++
              (blanks m.after ++ (Value.membersText false ms ++ '\x7d' :: rest)))))
          = skipFrom (.object :: stack) (blanks m.beforeValue ++ (m.value.text ++
              (blanks m.after ++ (Value.membersText false ms ++ '\x7d' :: rest)))) := rfl
        _ = resume (afterValue (.object :: stack)
              (blanks m.after ++ (Value.membersText false ms ++ '\x7d' :: rest))) :=
            h m (by simp) _ _ _ hends
        _ = resume (afterValue stack rest) :=
            resume_members ms (fun m hm => h m (by simp [hm])) stack m.after rest

/-- Every value is skipped, whatever containers are open around it. -/
lemma skips (v : Value) : v.Skips := by
  induction v with
  | null =>
      exact Value.skips_of_scalar (fun rest _ => rfl) fun rest r => by simp [Value.text]
  | boolean b =>
      cases b <;>
        exact Value.skips_of_scalar (fun rest _ => rfl) fun rest r => by simp [Value.text]
  | number n => exact skips_number n
  | string s => exact skips_string s
  | list inner items ih => exact skips_list inner items ih
  | object inner ms ih => exact skips_object inner ms ih

/-- **Skipping values**: every value of a document is skipped, whatever its depth, and nothing
behind it. -/
theorem skipValue_text (v : Value) (bs : List Blank) {rest : List Char} (h : Ends rest) :
    skipValue (blanks bs ++ (v.text ++ rest)) = .ok rest := by
  rw [skipValue, skips v [] bs rest h]
  rfl

end Keystroke.Json
