import Keystroke.Proofs.Json.Decoding
import Keystroke.Proofs.Text.LowerCase
import Keystroke.Settings.Reading

/-!
The names of taps and of sources, where they are typed and in documents.

* `Tap.reader_decodes`, `Source.reader_decodes`: in a document, taps and sources are read where their
  full names stand;
* `Naming`: the names that the values of a type go by, full and short, and `Tap.naming`,
  `Source.naming`;
* `Naming.Agrees`: what it means that a way of reading typed names agrees with the names in
  documents, and `Naming.Proper.agrees`, where this comes from;
* `naming_agrees`: it holds of taps and of sources.
-/

namespace Keystroke

open Json

/-! ### Names in documents -/

lemma Tap.proper : Variants.Proper ⟨Tap.all, Tap.name⟩ where
  mem_all t := by cases t <;> simp [Tap.all]
  name_inj {a b} h := by
    cases a <;> cases b <;> first | rfl | exact absurd h (by decide)

lemma Tap.reader_decodes : Tap.reader.Decodes fun v t => v.Names t.name :=
  Tap.proper.reader_decodes

lemma Source.proper : Variants.Proper ⟨Source.all, Source.name⟩ where
  mem_all s := by cases s <;> simp [Source.all]
  name_inj {a b} h := by
    cases a <;> cases b <;> first | rfl | exact absurd h (by decide)

lemma Source.reader_decodes : Source.reader.Decodes fun v s => v.Names s.name :=
  Source.proper.reader_decodes

/-! ### Typed names -/

/-- The names that the values of a type go by: one full name each, and for some of them short
ones. -/
structure Naming (α : Type) where
  name : α → String
  short : α → List String

/-- The names of taps. -/
def Tap.naming : Naming Tap where
  name := Tap.name
  short
    | .annotatedSession => ["annotated"]
    | _ => []

/-- The names of sources. -/
def Source.naming : Naming Source where
  name := Source.name
  short
    | .hidSystem => ["hid"]
    | .combinedSession => ["combined"]
    | .ownState => []

namespace Naming

variable {α : Type} {N : Naming α}

/-- A text is one of the names of a value. -/
def Calls (N : Naming α) (n : String) (a : α) : Prop :=
  n = N.name a ∨ n ∈ N.short a

instance (N : Naming α) (n : String) (a : α) : Decidable (N.Calls n a) :=
  inferInstanceAs (Decidable (_ ∨ _))

/-- No name belongs to two values, and full names are in lower case. -/
structure Proper (N : Naming α) : Prop where
  unique : ∀ {n a b}, N.Calls n a → N.Calls n b → a = b
  lowered_name : ∀ a, Text.lowered (N.name a) = N.name a

/-- A table that has just these names in it gives each of them one value. -/
lemma Proper.of_table {ofName? : String → Option α}
    (hof : ∀ n a, ofName? n = some a ↔ N.Calls n a)
    (hlowered : ∀ a, Text.lowered (N.name a) = N.name a) : N.Proper where
  unique ha hb := Option.some.inj (((hof _ _).mpr ha).symm.trans ((hof _ _).mpr hb))
  lowered_name := hlowered

/-- The value that a text names in any case of letters. An unknown name is refused in lower case. -/
def parse (ofName? : String → Option α) (opening : String) (s : String) : Except PostError α :=
  match ofName? (Text.lowered s) with
  | some a => .ok a
  | none => .error (.badRequest (opening ++ Text.lowered s))

/-! ### Agreement -/

/-- What it means that a way of reading typed names agrees with the names in documents.  What is
typed counts in lower case only; short names are for typing, and full names are for both. -/
structure Agrees (N : Naming α) (read : String → Except PostError α) (opening : String)
    (reader : Reader α) : Prop where
  /-- Texts that differ in the case of letters only are read alike. -/
  caseless : ∀ s s', Text.SameButCase s s' → read s = read s'
  /-- Just the names are read, full or short. -/
  accepts : ∀ s a, read s = .ok a ↔ N.Calls (Text.lowered s) a
  /-- Every other text is refused, and repeated in lower case. -/
  refuses : ∀ s e, read s = .error e ↔
    (∀ a, ¬ N.Calls (Text.lowered s) a) ∧ e = .badRequest (opening ++ Text.lowered s)
  /-- A text that names a value in a document names it in any case when it is typed. -/
  typed : ∀ (d : Document) (p : StringText) s a, d.value = .string p → p.Spells s →
    reader.parse (String.ofList d.text) = .ok a →
      ∀ s', Text.SameButCase s s' → read s' = .ok a
  /-- A text that names a value when it is typed, but not by a short name, names it in a document
  when it is written in lower case. -/
  written : ∀ s a, read s = .ok a → (∀ b, Text.lowered s ∉ N.short b) →
    ∀ (d : Document) (p : StringText), d.value = .string p → p.Spells (Text.lowered s) →
      reader.parse (String.ofList d.text) = .ok a

/-- A value that is no full name but may be taken for one: null, or a text that names a value only
when it is typed, since it is a short name or stands in another case. -/
def Misnames (N : Naming α) (v : Value) : Prop :=
  v = .null ∨ ∃ n a, v.Names n ∧ N.Calls (Text.lowered n) a ∧ n ≠ N.name a

lemma Proper.not_names_of_misnames (hN : N.Proper) {v : Value} (h : N.Misnames v) (a : α) :
    ¬ v.Names (N.name a) := by
  intro ha
  rcases h with rfl | ⟨n, b, hn, hcalls, hne⟩
  · cases ha
  · obtain rfl := hn.unique ha
    rw [hN.lowered_name] at hcalls
    exact hne (congrArg N.name (hN.unique (.inl rfl) hcalls))

lemma names_string_iff {p : StringText} {s n : String} (hp : p.Spells s) :
    (Value.string p).Names n ↔ s = n := by
  constructor
  · rintro ⟨h⟩
    exact hp.unique h
  · rintro rfl
    exact .string hp

/-- The reading of names by a table agrees with documents if the table has the names in it. -/
lemma Proper.agrees (hN : N.Proper) {ofName? : String → Option α} {reader : Reader α}
    {opening : String} (hof : ∀ n a, ofName? n = some a ↔ N.Calls n a)
    (hd : reader.Decodes fun v a => v.Names (N.name a)) :
    N.Agrees (parse ofName? opening) opening reader := by
  have haccepts : ∀ s a, parse ofName? opening s = .ok a ↔ N.Calls (Text.lowered s) a := by
    intro s a
    rw [← hof, parse]
    cases ofName? (Text.lowered s) <;> simp
  have hdoc : ∀ {d : Document} {p : StringText} {s : String} {a : α}, d.value = .string p →
      p.Spells s → (reader.parse (String.ofList d.text) = .ok a ↔ s = N.name a) := by
    intro d p s a hv hp
    rw [hd.parse_eq_ok_iff, hv, names_string_iff hp]
  refine ⟨?_, haccepts, ?_, ?_, ?_⟩
  · intro s s' h
    rw [parse, parse, Text.sameButCase_iff.mp h]
  · intro s e
    simp only [← hof, ← Option.eq_none_iff_forall_ne_some, parse]
    cases ofName? (Text.lowered s) <;> simp [eq_comm]
  · intro d p s a hv hp hread s' hs
    obtain rfl := (hdoc hv hp).mp hread
    rw [haccepts, ← Text.sameButCase_iff.mp hs]
    exact .inl (hN.lowered_name a)
  · intro s a hread hshort d p hv hp
    rcases (haccepts s a).mp hread with hname | hmem
    · exact (hdoc hv hp).mpr hname
    · exact absurd hmem (hshort a)

end Naming

/-! ### Taps and sources -/

lemma Tap.ofName?_eq_some_iff {n : String} {t : Tap} :
    Tap.ofName? n = some t ↔ Tap.naming.Calls n t := by
  unfold Tap.ofName?
  split <;> cases t <;> simp_all [Naming.Calls, Tap.naming, Tap.name]

lemma Source.ofName?_eq_some_iff {n : String} {s : Source} :
    Source.ofName? n = some s ↔ Source.naming.Calls n s := by
  unfold Source.ofName?
  split <;> cases s <;> simp_all [Naming.Calls, Source.naming, Source.name]

lemma Tap.naming_proper : Tap.naming.Proper :=
  .of_table (fun _ _ => Tap.ofName?_eq_some_iff) fun t => by cases t <;> decide +kernel

lemma Source.naming_proper : Source.naming.Proper :=
  .of_table (fun _ _ => Source.ofName?_eq_some_iff) fun s => by cases s <;> decide +kernel

lemma Tap.parse_eq : Tap.parse = Naming.parse Tap.ofName? "unknown tap location: " := by
  funext s
  rw [Tap.parse, Naming.parse, Text.lowered]
  cases Tap.ofName? (s.map Char.toLower) <;> rfl

lemma Source.parse_eq :
    Source.parse = Naming.parse Source.ofName? "unknown event source state: " := by
  funext s
  rw [Source.parse, Naming.parse, Text.lowered]
  cases Source.ofName? (s.map Char.toLower) <;> rfl

/-- **Names**: taps and sources are read by their names in any case of letters, of which none but A
to Z are lowered, and the full names are those that every document uses. -/
theorem naming_agrees :
    (∀ s, Text.Lowers s (Text.lowered s)) ∧
    (∀ s, (StringText.ofString s).Spells s) ∧
    Tap.naming.Agrees Tap.parse "unknown tap location: " Tap.reader ∧
    Source.naming.Agrees Source.parse "unknown event source state: " Source.reader := by
  refine ⟨fun _ => Text.lowers_iff.mpr rfl, StringText.spells_ofString, ?_, ?_⟩
  · rw [Tap.parse_eq]
    exact Tap.naming_proper.agrees (fun _ _ => Tap.ofName?_eq_some_iff) Tap.reader_decodes
  · rw [Source.parse_eq]
    exact Source.naming_proper.agrees (fun _ _ => Source.ofName?_eq_some_iff) Source.reader_decodes

/-- A full name in capitals, as it is typed and as documents have it, a short name, and a name with
a long s in it, which is none. -/
theorem naming_agrees_mixed :
    Tap.parse "ANNOTATED-Session" = .ok .annotatedSession ∧
      Tap.reader.parse "\"annotated-session\"" = .ok .annotatedSession ∧
      Source.parse "Hid" = .ok .hidSystem ∧
      Tap.parse "SE\u017fSION" = .error (.badRequest "unknown tap location: se\u017fsion") := by
  obtain ⟨-, hspells, htap, hsource⟩ := naming_agrees
  have hlowered : Text.lowered "ANNOTATED-Session" = "annotated-session" := by decide +kernel
  have hsame : Text.SameButCase "annotated-session" "ANNOTATED-Session" :=
    Text.sameButCase_iff.mpr
      ((Tap.naming_proper.lowered_name .annotatedSession).trans hlowered.symm)
  let d : Document := { value := .string (.ofString "annotated-session") }
  have hd : String.ofList d.text = "\"annotated-session\"" := by decide +kernel
  have hcapitals : Tap.parse "ANNOTATED-Session" = .ok .annotatedSession :=
    (htap.accepts _ _).mpr (.inl hlowered)
  have hfull : ∀ t, "annotated-session" ∉ Tap.naming.short t := fun t => by cases t <;> decide
  have hread : Tap.reader.parse (String.ofList d.text) = .ok .annotatedSession := by
    refine htap.written _ _ hcapitals ?_ d _ rfl ?_
    · rwa [hlowered]
    · rw [hlowered]
      exact hspells _
  have hunknown : ∀ t, ¬ Tap.naming.Calls (Text.lowered "SE\u017fSION") t := fun t => by
    cases t <;> decide +kernel
  refine ⟨htap.typed d _ _ _ rfl (hspells _) hread _ hsame, ?_, ?_, ?_⟩
  · rwa [hd] at hread
  · exact (hsource.accepts _ _).mpr (by decide +kernel)
  · exact (htap.refuses _ _).mpr ⟨hunknown, by decide +kernel⟩

end Keystroke
