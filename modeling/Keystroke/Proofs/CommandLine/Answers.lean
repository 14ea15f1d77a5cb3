import Keystroke.Proofs.CommandLine.Acceptance
import Mathlib.Data.List.Induction

/-!
What a spelling is answered with.

* `Offends`: an occurrence that cannot stand after those before it, and the answer to it;
* `Harmless`: no occurrence of a list offends (`harmless_iff`);
* `Answers`: the answer to a list of occurrences.  The first one that offends decides it, and only
  without any it matters which options exclude or need one another;
* `Told`: the kind of that answer and what is at fault, where it is no invocation (`told_iff`);
* `read_eq_iff_answers_of_spells`: reading a spelling gives the answer to its occurrences.

Offences are met by `acceptAll` one after another, so that a list is harmless exactly if all of it
is accepted; every other fact about it is about its last occurrence.
-/

namespace Keystroke.CommandLine

open Occurrence (settings)

/-! ### Offences -/

/-- The parser of an option rejects a value.  Texts and requests are kept whatever they are. -/
inductive Rejects : ValueOption → String → ValueError → Prop where
  | key {v e} (h : Numeral.parse v = .error e) : Rejects .key v (.numeral e v)
  | char {v e} (h : Numeral.parse v = .error e) : Rejects .char v (.numeral e v)
  | tap {v e} (h : Tap.parse v = .error e) : Rejects .tap v (.name e)
  | source {v e} (h : Source.parse v = .error e) : Rejects .source v (.name e)

/-- What the parser of an option says against a value, in words. -/
def complaint? (o : ValueOption) (v : String) : Option String :=
  match o with
  | .key | .char =>
      match Numeral.parse v with
      | .ok _ => none
      | .error e => some (e.message v)
  | .tap =>
      match Tap.parse v with
      | .ok _ => none
      | .error e => some e.message
  | .source =>
      match Source.parse v with
      | .ok _ => none
      | .error e => some e.message
  | .text | .request => none

/-- An occurrence cannot stand after those before it, and is answered by a stop.  An option that
occurs again is refused as at odds with itself, without a look at its value. -/
inductive Offends (before : List Occurrence) : Occurrence → Stop → Prop where
  | query (q : Query) : Offends before (.query q) (.query q)
  | again {u} (hu : ∀ q, u ≠ .query q) (h : u.option ∈ before.map Occurrence.option) :
      Offends before u (.usage (.repeated u.option))
  | badValue {o v e} (hnew : .value o ∉ before.map Occurrence.option) (h : Rejects o v e) :
      Offends before (.value o v) (.usage (.badValue o v e))

/-- No occurrence offends those before it. -/
def Harmless (us : List Occurrence) : Prop :=
  ∀ before u after, us = before ++ u :: after → ∀ stop, ¬ Offends before u stop

/-! ### Options that exclude one another -/

/-- No two options of a list exclude one another. -/
structure Compatible (os : List OptionName) : Prop where
  /-- A whole request stands alone. -/
  alone : .value .request ∈ os →
    .value .key ∉ os ∧ .value .char ∉ os ∧ .value .text ∉ os ∧ .flag .down ∉ os ∧ .flag .up ∉ os
  charOrText : ¬ (.value .char ∈ os ∧ .value .text ∈ os)
  downOrUp : ¬ (.flag .down ∈ os ∧ .flag .up ∈ os)

/-- The first option of a list that excludes others of it, and those others in order. -/
structure Clash (os : List OptionName) (o : OptionName) (others : List OptionName) : Prop where
  first : ∃ before after, os = before ++ o :: after ∧ ∀ p ∈ before, ∀ q ∈ os, ¬ p.conflictsWith q
  others_eq : others = os.filter o.conflictsWith
  others_ne : others ≠ []

/-- The answer to a list of occurrences. -/
inductive Answers (us : List Occurrence) : Except Stop Invocation → Prop where
  /-- The first occurrence that offends decides, whatever follows it. -/
  | offence {before u after stop} (hus : us = before ++ u :: after) (hb : Harmless before)
      (hu : Offends before u stop) : Answers us (.error stop)
  /-- Options exclude one another. -/
  | conflict {o others} (h : Harmless us) (hc : ¬ Compatible (us.map Occurrence.option))
      (ho : Clash (us.map Occurrence.option) o others) :
      Answers us (.error (.usage (.conflict o others)))
  /-- There is neither a key nor a whole request. -/
  | missing (h : Harmless us) (hc : Compatible (us.map Occurrence.option))
      (hk : .value .key ∉ us.map Occurrence.option)
      (hr : .value .request ∉ us.map Occurrence.option) :
      Answers us (.error (.usage (.missing (.value .key))))
  | invocation {i : Invocation} (h : Harmless us) (hc : Compatible (us.map Occurrence.option))
      (hn : .value .key ∈ us.map Occurrence.option ∨ .value .request ∈ us.map Occurrence.option)
      (hi : i.Reflects us) : Answers us (.ok i)

/-! ### Answers taken apart -/

/-- What is told about an occurrence that cannot stand after those before it. -/
inductive OffenceTold (before : List Occurrence) : Occurrence → Details → Prop where
  | help : OffenceTold before (.query .help) { kind := "DisplayHelp" }
  | version : OffenceTold before (.query .version) { kind := "DisplayVersion" }
  | again {u} (hu : ∀ q, u ≠ .query q) (h : u.option ∈ before.map Occurrence.option) :
      OffenceTold before u
        { kind := "ArgumentConflict", invalid := [u.option.label], prior := [u.option.label] }
  | badValue {o v cause} (hnew : .value o ∉ before.map Occurrence.option)
      (h : complaint? o v = some cause) :
      OffenceTold before (.value o v)
        { kind := "ValueValidation", invalid := [(OptionName.value o).label], values := [v],
          cause := some cause }

/-- What is told about a list of occurrences that makes up no invocation. -/
inductive Told (us : List Occurrence) : Details → Prop where
  | offence {before u after d} (hus : us = before ++ u :: after) (hb : Harmless before)
      (hu : OffenceTold before u d) : Told us d
  | conflict {o others} (h : Harmless us) (hc : ¬ Compatible (us.map Occurrence.option))
      (ho : Clash (us.map Occurrence.option) o others) :
      Told us
        { kind := "ArgumentConflict", invalid := [o.label], prior := others.map OptionName.label }
  | missing (h : Harmless us) (hc : Compatible (us.map Occurrence.option))
      (hk : .value .key ∉ us.map Occurrence.option)
      (hr : .value .request ∉ us.map Occurrence.option) :
      Told us { kind := "MissingRequiredArgument", invalid := ["--key <KEY>"] }

/-! ### One occurrence -/

section Accept

variable {r r' : Reading} {u : Occurrence} {us : List Occurrence} {stop : Stop}

lemma map_mapError_eq_error_iff {ε ε' α β : Type} {x : Except ε α} {f : ε → ε'} {g : α → β}
    {e : ε'} : (x.mapError f).map g = .error e ↔ ∃ n, x = .error n ∧ f n = e := by
  cases x <;> simp [Except.map, Except.mapError]

lemma rejects_iff {o : ValueOption} {v : String} {e : ValueError} :
    Rejects o v e ↔ Setting.ofValue o v = .error e := by
  constructor
  · rintro (h | h | h | h) <;> exact map_mapError_eq_error_iff.mpr ⟨_, h, rfl⟩
  · intro h
    cases o
    case key =>
      obtain ⟨n, hn, rfl⟩ := map_mapError_eq_error_iff.mp h
      exact .key hn
    case char =>
      obtain ⟨n, hn, rfl⟩ := map_mapError_eq_error_iff.mp h
      exact .char hn
    case tap =>
      obtain ⟨p, hp, rfl⟩ := map_mapError_eq_error_iff.mp h
      exact .tap hp
    case source =>
      obtain ⟨p, hp, rfl⟩ := map_mapError_eq_error_iff.mp h
      exact .source hp
    case text | request => cases h

lemma complaint?_eq (o : ValueOption) (v : String) :
    complaint? o v =
      match Setting.ofValue o v with
      | .ok _ => none
      | .error e => some e.message := by
  cases o <;> simp only [complaint?, Setting.ofValue, Setting.codeOf]
  case key | char => cases Numeral.parse v <;> rfl
  case tap => cases Tap.parse v <;> rfl
  case source => cases Source.parse v <;> rfl

/-- A value is rejected exactly if its parser says something against it, and in these words. -/
lemma complaint?_eq_some_iff {o : ValueOption} {v cause : String} :
    complaint? o v = some cause ↔ ∃ e, Rejects o v e ∧ e.message = cause := by
  simp only [complaint?_eq, rejects_iff]
  cases Setting.ofValue o v <;> simp

lemma Rejects.complaint?_eq {o : ValueOption} {v : String} {e : ValueError} (h : Rejects o v e) :
    complaint? o v = some e.message :=
  complaint?_eq_some_iff.mpr ⟨e, h, rfl⟩

lemma has_eq_true_iff {o : OptionName} : r.has o = true ↔ o ∈ r.given.map Setting.option := by
  rw [← Bool.not_eq_false, has_eq_false_iff, not_not]

lemma take_eq_error_iff {s : Setting} :
    r.take s = .error stop ↔
      s.option ∈ r.given.map Setting.option ∧ stop = .usage (.repeated s.option) := by
  rw [Reading.take, ← has_eq_true_iff]
  cases r.has s.option <;> simp [eq_comm]

lemma takeValue_eq_error_iff {o : ValueOption} {v : String} :
    r.takeValue o v = .error stop ↔
      (.value o ∈ r.given.map Setting.option ∧ stop = .usage (.repeated (.value o))) ∨
        (.value o ∉ r.given.map Setting.option ∧
          ∃ e, Rejects o v e ∧ stop = .usage (.badValue o v e)) := by
  rw [Reading.takeValue]
  by_cases hmem : .value o ∈ r.given.map Setting.option
  · simp [has_eq_true_iff.mpr hmem, hmem, eq_comm]
  · simp only [has_eq_false_iff.mpr hmem, rejects_iff, hmem, false_and, false_or, not_false_eq_true,
      true_and, Bool.false_eq_true, if_false]
    cases hv : Setting.ofValue o v with
    | error e => simp [eq_comm]
    | ok s =>
        have hs := Setting.option_of_ofValue hv
        simp [take_eq_error_iff, hs, hmem]

/-- An occurrence is refused exactly if it offends those that were taken. -/
lemma accept_eq_error_iff (hr : r.given.map Setting.option = us.map Occurrence.option) :
    r.accept u = .error stop ↔ Offends us u stop := by
  constructor
  · intro h
    cases u with
    | query q => exact Except.error.inj h ▸ .query q
    | flag f =>
        obtain ⟨hmem, rfl⟩ := take_eq_error_iff.mp h
        rw [hr, Setting.option_ofFlag] at hmem
        rw [Setting.option_ofFlag]
        exact .again (u := .flag f) (by simp) hmem
    | value o v =>
        rcases takeValue_eq_error_iff.mp h with ⟨hmem, rfl⟩ | ⟨hnew, e, he, rfl⟩
        · exact .again (u := .value o v) (by simp) (hr ▸ hmem)
        · exact .badValue (hr ▸ hnew) he
  · intro h
    cases h with
    | query q => rfl
    | again hu hmem =>
        cases u with
        | query q => exact absurd rfl (hu q)
        | flag f =>
            refine take_eq_error_iff.mpr ⟨?_, ?_⟩
            · rw [hr, Setting.option_ofFlag]
              exact hmem
            · rw [Setting.option_ofFlag]
              rfl
        | value o v => exact takeValue_eq_error_iff.mpr (.inl ⟨hr ▸ hmem, rfl⟩)
    | badValue hnew he => exact takeValue_eq_error_iff.mpr (.inr ⟨hr ▸ hnew, _, he, rfl⟩)

/-- What is told about an offence is the answer to it, taken apart. -/
lemma offenceTold_iff {d : Details} :
    OffenceTold us u d ↔ ∃ stop, Offends us u stop ∧ stop.details = d := by
  constructor
  · intro h
    cases h with
    | help => exact ⟨_, .query .help, rfl⟩
    | version => exact ⟨_, .query .version, rfl⟩
    | again hu h => exact ⟨_, .again hu h, rfl⟩
    | badValue hnew h =>
        obtain ⟨e, he, rfl⟩ := complaint?_eq_some_iff.mp h
        exact ⟨_, .badValue hnew he, rfl⟩
  · rintro ⟨stop, h, rfl⟩
    cases h with
    | query q => cases q with
      | help => exact .help
      | version => exact .version
    | again hu h => exact .again hu h
    | badValue hnew h => exact .badValue hnew h.complaint?_eq

/-! ### Lists of occurrences -/

lemma acceptAll_append (vs : List Occurrence) :
    r.acceptAll (us ++ vs) = r.acceptAll us >>= (·.acceptAll vs) := by
  induction us generalizing r with
  | nil => rfl
  | cons u us ih =>
      simp only [List.cons_append, Reading.acceptAll]
      cases r.accept u with
      | error e => rfl
      | ok r₁ => exact ih

/-- The options of accepted occurrences are those of the settings taken. -/
lemma map_option_of_acceptAll (h : Reading.acceptAll {} us = .ok r) :
    r.given.map Setting.option = us.map Occurrence.option := by
  obtain ⟨hall, -, rfl⟩ := acceptAll_empty_eq_ok_iff.mp h
  exact map_option_settings hall

/-- After accepted occurrences one that offends them decides. -/
lemma acceptAll_of_offends {before after : List Occurrence}
    (hr : Reading.acceptAll {} before = .ok r) (hu : Offends before u stop) :
    Reading.acceptAll {} (before ++ u :: after) = .error stop := by
  have hacc := (accept_eq_error_iff (map_option_of_acceptAll hr)).mpr hu
  rw [acceptAll_append, hr]
  simp only [bind, Except.bind, Reading.acceptAll, hacc]

lemma harmless_nil : Harmless [] := by
  intro before u after h
  simp at h

lemma harmless_concat_iff :
    Harmless (us ++ [u]) ↔ Harmless us ∧ ∀ stop, ¬ Offends us u stop := by
  constructor
  · intro h
    refine ⟨fun before v after hus => ?_, fun stop => h us u [] rfl stop⟩
    exact h before v (after ++ [u]) (by simp [hus])
  · rintro ⟨hus, hu⟩ before v after h
    rcases List.eq_nil_or_concat after with rfl | ⟨after', w, rfl⟩
    · obtain ⟨rfl, hv⟩ := List.append_inj' h rfl
      obtain rfl : u = v := by simpa using hv
      exact hu
    · have h' : us ++ [u] = (before ++ v :: after') ++ [w] := by simpa using h
      exact hus before v after' (List.append_inj' h' rfl).1

/-- A list is harmless exactly if all of it is accepted. -/
lemma harmless_iff : Harmless us ↔ ∃ r, Reading.acceptAll {} us = .ok r := by
  -- from the end, since whether an occurrence offends is up to all those before it
  induction us using List.reverseRecOn with
  | nil => exact ⟨fun _ => ⟨_, rfl⟩, fun _ => harmless_nil⟩
  | append_singleton us u ih =>
      rw [harmless_concat_iff, ih, acceptAll_append]
      cases hus : Reading.acceptAll {} us with
      | error e => simp [bind, Except.bind]
      | ok r =>
          have hacc : ∀ stop, r.accept u = .error stop ↔ Offends us u stop := fun stop =>
            accept_eq_error_iff (map_option_of_acceptAll hus)
          simp only [bind, Except.bind, Reading.acceptAll, Except.ok.injEq, exists_eq', true_and,
            ← hacc]
          cases r.accept u <;> simp

/-- A list is harmless, or one of its occurrences is the first to offend those before it. -/
lemma harmless_or_exists_offends (us : List Occurrence) :
    Harmless us ∨
      ∃ before u after stop, us = before ++ u :: after ∧ Harmless before ∧ Offends before u stop := by
  induction us using List.reverseRecOn with
  | nil => exact .inl harmless_nil
  | append_singleton us u ih =>
      rcases ih with hus | ⟨before, v, after, stop, rfl, hb, hv⟩
      · by_cases hu : ∃ stop, Offends us u stop
        · obtain ⟨stop, hu⟩ := hu
          exact .inr ⟨us, u, [], stop, rfl, hus, hu⟩
        · exact .inl (harmless_concat_iff.mpr ⟨hus, fun stop h => hu ⟨stop, h⟩⟩)
      · exact .inr ⟨before, v, after ++ [u], stop, by simp, hb, hv⟩

end Accept

/-! ### The check at the end -/

section Check

variable {os : List OptionName}

lemma compatible_iff : Compatible os ↔ Reading.conflict? os = none := by
  rw [conflict?_eq_none_iff, no_conflict_iff]
  exact ⟨fun ⟨ha, hct, hdu⟩ => ⟨ha, hct, hdu⟩, fun ⟨ha, hct, hdu⟩ => ⟨ha, hct, hdu⟩⟩

lemma clash_iff {o : OptionName} {others : List OptionName} :
    Clash os o others ↔ Reading.conflict? os = some (.conflict o others) := by
  simp only [Reading.conflict?, Reading.conflictsOf, Option.map_eq_some_iff,
    List.find?_eq_some_iff_append]
  constructor
  · rintro ⟨⟨before, after, hos, hb⟩, rfl, hne⟩
    refine ⟨o, ⟨by simpa using hne, before, after, hos, fun p hp => ?_⟩, rfl⟩
    simpa using hb p hp
  · rintro ⟨p, ⟨hne, before, after, hos, hb⟩, he⟩
    obtain ⟨rfl, rfl⟩ : p = o ∧ os.filter p.conflictsWith = others := by simpa using he
    refine ⟨⟨before, after, hos, fun p hp => ?_⟩, rfl, by simpa using hne⟩
    simpa using hb p hp

/-- Only a clash is found by looking for conflicts. -/
lemma exists_clash_of_not_compatible (h : ¬ Compatible os) : ∃ o others, Clash os o others := by
  rw [compatible_iff, ← ne_eq, Option.ne_none_iff_exists'] at h
  obtain ⟨e, he⟩ := h
  obtain ⟨o, -, rfl⟩ := Option.map_eq_some_iff.mp he
  exact ⟨_, _, clash_iff.mpr he⟩

end Check

/-! ### Answers -/

/-- The occurrences determine the invocation that reflects them. -/
lemma Invocation.Reflects.unique {i i' : Invocation} {us : List Occurrence} (h : i.Reflects us)
    (h' : i'.Reflects us) : i = i' := by
  have hkey : i.key = i'.key := Option.ext fun c => (h.key c).trans (h'.key c).symm
  have hchar : i.char = i'.char := Option.ext fun c => (h.char c).trans (h'.char c).symm
  have htext : i.text = i'.text := Option.ext fun s => (h.text s).trans (h'.text s).symm
  have hrequest : i.request? = i'.request? :=
    Option.ext fun s => (h.request s).trans (h'.request s).symm
  have hdown : i.down = i'.down := Bool.eq_iff_iff.mpr (h.down.trans h'.down.symm)
  have hup : i.up = i'.up := Bool.eq_iff_iff.mpr (h.up.trans h'.up.symm)
  have hverbose : i.verbose = i'.verbose := Bool.eq_iff_iff.mpr (h.verbose.trans h'.verbose.symm)
  -- taps and sources have a default, which holds if there is none among the occurrences
  have htap : i.tap = i'.tap := by
    by_cases hv : ∃ v, .value .tap v ∈ us
    · obtain ⟨v, hv⟩ := hv
      exact Except.ok.inj ((h.tap.1 v hv).symm.trans (h'.tap.1 v hv))
    · rw [not_exists] at hv
      rw [h.tap.2 hv, h'.tap.2 hv]
  have hsource : i.source = i'.source := by
    by_cases hv : ∃ v, .value .source v ∈ us
    · obtain ⟨v, hv⟩ := hv
      exact Except.ok.inj ((h.source.1 v hv).symm.trans (h'.source.1 v hv))
    · rw [not_exists] at hv
      rw [h.source.2 hv, h'.source.2 hv]
  cases i
  cases i'
  simp_all

variable {args : List String} {us : List Occurrence}

/-- What is read from a spelling whose occurrences are harmless is up to the check at the end. -/
lemma read_of_harmless (hs : Spells args us) (h : Harmless us) :
    (settings us).map Setting.option = us.map Occurrence.option ∧
      read args =
        match Reading.check (settings us) with
        | some e => .error (.usage e)
        | none => .ok (.ofSettings (settings us)) := by
  obtain ⟨r, hr⟩ := harmless_iff.mp h
  have hopt := map_option_of_acceptAll hr
  obtain ⟨-, -, rfl⟩ := acceptAll_empty_eq_ok_iff.mp hr
  exact ⟨hopt, by rw [read_of_spells hs, hr]; rfl⟩

/-- Each of the answers is what is read. -/
lemma Answers.read_eq {answer : Except Stop Invocation} (hs : Spells args us)
    (h : Answers us answer) : read args = answer := by
  cases h with
  | offence hus hb hu =>
      obtain ⟨r, hr⟩ := harmless_iff.mp hb
      rw [read_of_spells hs, hus, acceptAll_of_offends hr hu]
      rfl
  | conflict h hc ho =>
      obtain ⟨hopt, hread⟩ := read_of_harmless hs h
      rw [hread, Reading.check, hopt]
      simp only [clash_iff.mp ho]
  | missing h hc hk hr =>
      obtain ⟨hopt, hread⟩ := read_of_harmless hs h
      rw [hread, Reading.check, hopt]
      simp only [compatible_iff.mp hc, Reading.missing?]
      simp [hk, hr]
  | invocation h hc hn hi =>
      obtain ⟨hopt, hread⟩ := read_of_harmless hs h
      have hcheck : Reading.check (settings us) = none := by
        rw [Reading.check, hopt]
        simp only [compatible_iff.mp hc]
        exact missing?_eq_none_iff.mpr hn
      obtain ⟨r, hr⟩ := harmless_iff.mp h
      obtain ⟨hall, hd, -⟩ := acceptAll_empty_eq_ok_iff.mp hr
      simp only [hread, hcheck]
      rw [(reflects_ofSettings hall hd).unique hi]

/-- Every list of occurrences has an answer. -/
lemma exists_answers (us : List Occurrence) : ∃ answer, Answers us answer := by
  rcases harmless_or_exists_offends us with h | ⟨before, u, after, stop, hus, hb, hu⟩
  · by_cases hc : Compatible (us.map Occurrence.option)
    · by_cases hn : .value .key ∈ us.map Occurrence.option ∨
        .value .request ∈ us.map Occurrence.option
      · obtain ⟨r, hr⟩ := harmless_iff.mp h
        obtain ⟨hall, hd, -⟩ := acceptAll_empty_eq_ok_iff.mp hr
        exact ⟨_, .invocation h hc hn (reflects_ofSettings hall hd)⟩
      · rw [not_or] at hn
        exact ⟨_, .missing h hc hn.1 hn.2⟩
    · obtain ⟨o, others, ho⟩ := exists_clash_of_not_compatible hc
      exact ⟨_, .conflict h hc ho⟩
  · exact ⟨_, .offence hus hb hu⟩

/-- What is told about a list of occurrences is the answer to it, taken apart. -/
lemma told_iff {d : Details} : Told us d ↔ ∃ stop, Answers us (.error stop) ∧ stop.details = d := by
  constructor
  · intro h
    cases h with
    | offence hus hb hu =>
        obtain ⟨stop, hu, hd⟩ := offenceTold_iff.mp hu
        exact ⟨stop, .offence hus hb hu, hd⟩
    | conflict h hc ho => exact ⟨_, .conflict h hc ho, rfl⟩
    | missing h hc hk hr => exact ⟨_, .missing h hc hk hr, rfl⟩
  · rintro ⟨stop, h, rfl⟩
    cases h with
    | offence hus hb hu => exact .offence hus hb (offenceTold_iff.mpr ⟨_, hu, rfl⟩)
    | conflict h hc ho => exact .conflict h hc ho
    | missing h hc hk hr => exact .missing h hc hk hr

/-- **Answers to spellings**: in whatever forms options and queries are spelled, reading gives the
answer to the occurrences: that of the first one that offends, whatever follows it, and only then
that of options which exclude or need one another.  A bad value is refused in the words of its
parser, and where there is no invocation the answer names its kind and what is at fault. -/
theorem read_eq_iff_answers_of_spells (hs : Spells args us) :
    (∀ answer, read args = answer ↔ Answers us answer) ∧
      (∀ o v e, read args = .error (.usage (.badValue o v e)) →
        complaint? o v = some e.message) ∧
      ∀ d, Told us d ↔ ∃ stop, read args = .error stop ∧ stop.details = d := by
  have hiff : ∀ answer, read args = answer ↔ Answers us answer := by
    intro answer
    refine ⟨fun h => ?_, fun h => h.read_eq hs⟩
    obtain ⟨answer', h'⟩ := exists_answers us
    obtain rfl := (h'.read_eq hs).symm.trans h
    exact h'
  refine ⟨hiff, fun o v e h => ?_, fun d => ?_⟩
  · cases (hiff _).mp h with
    | offence hus hb hu => cases hu with
      | badValue hnew he => exact he.complaint?_eq
  · simp only [told_iff, hiff]

/-- The name of a tap that is none is answered for, although a key given twice, a code that is none,
a query and a whole request follow. -/
theorem read_eq_iff_answers_of_spells_tap :
    ∃ us, Spells ["-vk0x24", "--tap=Window", "--key", "zz", "-h", "--request=null"] us ∧
      read ["-vk0x24", "--tap=Window", "--key", "zz", "-h", "--request=null"] =
        .error (.usage (.badValue .tap "Window"
          (.name (.badRequest "unknown tap location: window")))) := by
  have hrest : Spells ["-k0x24", "--tap=Window", "--key", "zz", "-h", "--request=null"]
      [.value .key "0x24", .value .tap "Window", .value .key "zz", .query .help,
        .value .request "null"] :=
    .shortAttached (o := .key) (v := "0x24") rfl (by decide) (by decide)
      (.longEquals .tap "Window" (.longApart .key (.inr (by decide))
        (.short (u := .query .help) trivial rfl (.longEquals .request "null" .nil))))
  have hs := Spells.cluster (u := .flag .verbose) (s := "0x24") trivial rfl
    (by decide : 'k' ≠ '-') hrest
  have hbefore : Harmless [.flag .verbose, .value .key "0x24"] :=
    harmless_iff.mpr ⟨⟨[.verbose, .key 0x24], none, false⟩, by decide⟩
  have htap : Offends [.flag .verbose, .value .key "0x24"] (.value .tap "Window")
      (.usage (.badValue .tap "Window" (.name (.badRequest "unknown tap location: window")))) :=
    .badValue (by decide) (.tap (by decide +kernel))
  exact ⟨_, hs, ((read_eq_iff_answers_of_spells hs).1 _).mpr (.offence rfl hbefore htap)⟩

end Keystroke.CommandLine
