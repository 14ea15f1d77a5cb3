import Keystroke.Proofs.Text.Quoting
import Keystroke.Text.Lines

/-!
Messages that repeat a text.

* `lines_eq_splitOn`: the lines of a text are what stands between its line feeds;
* `lines_eq_singleton`: a text without control characters is a single line;
* `quotedPart`: what stands between the first quote of a message and the last one;
* `Repeats`: a message repeats a text, quoted, among words that have no quotes in them;
* `Repeats.le_toNat`, `Repeats.lines_eq`, `Repeats.guards_of_quotedPart_eq`,
  `Repeats.unescape_quotedPart`: such a message is a single line without control characters, its
  quoted part ends where the text does, and the text is read back from it.
-/

namespace Keystroke.Text

/-! ### Lines -/

lemma chomp_of_notMem {line : List Char} (h : '\r' ∉ line) : chomp line = line :=
  if_neg fun hlast => h (List.mem_of_getLast? hlast)

/-- At the beginning of a line nothing is put before what follows. -/
lemma modifyHead_nil_append (pieces : List (List Char)) :
    pieces.modifyHead (([] : List Char).reverse ++ ·) = pieces :=
  congrFun List.modifyHead_id pieces

lemma linesOf_eq_splitOn (line cs : List Char) :
    linesOf line cs = ((cs.splitOn '\n').modifyHead (line.reverse ++ ·)).map chomp := by
  induction cs generalizing line with
  | nil => simp [linesOf]
  | cons c cs ih =>
      rw [linesOf, List.splitOn_cons_eq_if_modifyHead]
      by_cases hc : c = '\n'
      · rw [if_pos hc, if_pos (beq_iff_eq.mpr hc), ih, modifyHead_nil_append]
        simp
      · have hline : ((c :: line).reverse ++ ·) = (line.reverse ++ ·) ∘ List.cons c := by
          funext rest
          simp
        rw [if_neg hc, if_neg (mt beq_iff_eq.mp hc), ih, hline, List.modifyHead_modifyHead]

/-- The lines of a text are what stands between its line feeds. -/
lemma lines_eq_splitOn (s : String) :
    lines s = (s.toList.splitOn '\n').map fun line => String.ofList (chomp line) := by
  rw [lines, linesOf_eq_splitOn, modifyHead_nil_append, List.map_map]
  rfl

/-- A text without control characters is a single line. -/
lemma lines_eq_singleton {s : String} (h : ∀ c ∈ s.toList, 0x20 ≤ c.toNat) : lines s = [s] := by
  have hcontrol : ∀ c : Char, c.toNat < 0x20 → c ∉ s.toList :=
    fun c hc hmem => absurd (h c hmem) (Nat.not_le.mpr hc)
  rw [lines_eq_splitOn, List.splitOn_eq_singleton (hcontrol '\n' (by decide)), List.map_singleton,
    chomp_of_notMem (hcontrol '\r' (by decide)), String.ofList_toList]

/-! ### The quoted part of a message -/

/-- What stands behind the first quote. -/
def afterQuote (cs : List Char) : List Char :=
  (cs.dropWhile (· ≠ '"')).tail

/-- What stands between the first quote of a message and the last one. -/
def quotedPart (m : String) : List Char :=
  (afterQuote (afterQuote m.toList).reverse).reverse

lemma afterQuote_append {cs : List Char} (h : '"' ∉ cs) (rest : List Char) :
    afterQuote (cs ++ '"' :: rest) = rest := by
  have hcs : ∀ c ∈ cs, decide (c ≠ '"') = true :=
    fun c hc => decide_eq_true fun heq => h (heq ▸ hc)
  rw [afterQuote, List.dropWhile_append_of_pos hcs, List.dropWhile_cons_of_neg (by decide)]
  rfl

/-! ### Messages that repeat a text -/

/-- Words that have neither quotes nor control characters in them. -/
def Plain (words : String) : Prop :=
  ∀ c ∈ words.toList, 0x20 ≤ c.toNat ∧ c ≠ '"'

instance (words : String) : Decidable (Plain words) :=
  List.decidableBAll _ words.toList

lemma Plain.le_toNat {words : String} (h : Plain words) : ∀ c ∈ words.toList, 0x20 ≤ c.toNat :=
  fun c hc => (h c hc).1

/-- A message repeats a text: it has the quoted text in it, and plain words around. -/
def Repeats (m s : String) : Prop :=
  ∃ opening closing, m = opening ++ quoted s ++ closing ∧ Plain opening ∧ Plain closing

namespace Repeats

variable {m s : String}

lemma toList_eq (h : Repeats m s) : ∃ opening closing : String, Plain opening ∧ Plain closing ∧
    m.toList = opening.toList ++ '"' :: (escaped s.toList ++ '"' :: closing.toList) := by
  obtain ⟨opening, closing, rfl, hopening, hclosing⟩ := h
  exact ⟨opening, closing, hopening, hclosing, by simp [quoted]⟩

/-- There are no control characters in the message, whatever the text is. -/
lemma le_toNat (h : Repeats m s) {c : Char} (hc : c ∈ m.toList) : 0x20 ≤ c.toNat := by
  obtain ⟨opening, closing, hopening, hclosing, hm⟩ := h.toList_eq
  simp only [hm, List.mem_append, List.mem_cons] at hc
  rcases hc with hc | rfl | hc | rfl | hc
  · exact hopening.le_toNat c hc
  · decide
  · exact le_toNat_of_mem_escaped hc
  · decide
  · exact hclosing.le_toNat c hc

lemma lines_eq (h : Repeats m s) : lines m = [m] :=
  lines_eq_singleton fun _ hc => h.le_toNat hc

lemma quotedPart_eq (h : Repeats m s) : quotedPart m = escaped s.toList := by
  obtain ⟨opening, closing, hopening, hclosing, hm⟩ := h.toList_eq
  have hfirst : '"' ∉ opening.toList := fun hmem => (hopening _ hmem).2 rfl
  have hlast : '"' ∉ closing.toList.reverse :=
    fun hmem => (hclosing _ (List.mem_reverse.mp hmem)).2 rfl
  have hreverse : (escaped s.toList ++ '"' :: closing.toList).reverse =
      closing.toList.reverse ++ '"' :: (escaped s.toList).reverse := by simp
  rw [quotedPart, hm, afterQuote_append hfirst, hreverse, afterQuote_append hlast,
    List.reverse_reverse]

lemma guards_of_quotedPart_eq (h : Repeats m s) {before after : List Char}
    (heq : quotedPart m = before ++ '"' :: after) : Guards before :=
  guards_of_escaped_eq (h.quotedPart_eq.symm.trans heq)

/-- The text is read back from the message. -/
lemma unescape_quotedPart (h : Repeats m s) : unescape (quotedPart m) = some s := by
  rw [h.quotedPart_eq, unescape_escaped]

/-- A message repeats one text only. -/
lemma unique {s' : String} (h : Repeats m s) (h' : Repeats m s') : s = s' :=
  Option.some.inj (h.unescape_quotedPart.symm.trans h'.unescape_quotedPart)

end Repeats

end Keystroke.Text
