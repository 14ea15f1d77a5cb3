import Keystroke.Proofs.CommandLine.Given
import Keystroke.Proofs.CommandLine.Spelling

/-!
Which spellings are accepted, and what is read from them.

* `Acceptable`: the conditions under which a list of occurrences makes up an invocation;
* `Invocation.Reflects`: the fields of an invocation are the values of the occurrences;
* `read_iff_acceptable_of_spells`: a spelling is read exactly if its occurrences are acceptable, and
  what is read reflects them.
-/

namespace Keystroke.CommandLine

/-- What a list of occurrences must keep to make up an invocation. -/
structure Acceptable (us : List Occurrence) : Prop where
  /-- No occurrence asks about the program. -/
  noQuery : ∀ q, .query q ∉ us
  /-- No option occurs twice. -/
  distinct : (us.map Occurrence.option).Nodup
  key : ∀ v, .value .key v ∈ us → ∃ c, Numeral.parse v = .ok c
  char : ∀ v, .value .char v ∈ us → ∃ c, Numeral.parse v = .ok c
  tap : ∀ v, .value .tap v ∈ us → ∃ t, Tap.parse v = .ok t
  source : ∀ v, .value .source v ∈ us → ∃ s, Source.parse v = .ok s
  /-- There is a key or a whole request. -/
  enough : .value .key ∈ us.map Occurrence.option ∨ .value .request ∈ us.map Occurrence.option
  /-- A whole request stands alone. -/
  alone : .value .request ∈ us.map Occurrence.option →
    .value .key ∉ us.map Occurrence.option ∧ .value .char ∉ us.map Occurrence.option ∧
      .value .text ∉ us.map Occurrence.option ∧ .flag .down ∉ us.map Occurrence.option ∧
      .flag .up ∉ us.map Occurrence.option
  charOrText :
    ¬ (.value .char ∈ us.map Occurrence.option ∧ .value .text ∈ us.map Occurrence.option)
  downOrUp : ¬ (.flag .down ∈ us.map Occurrence.option ∧ .flag .up ∈ us.map Occurrence.option)

/-- An invocation holds the values of a list of occurrences, and defaults where there is none. -/
structure Invocation.Reflects (i : Invocation) (us : List Occurrence) : Prop where
  key : ∀ c, i.key = some c ↔ ∃ v, .value .key v ∈ us ∧ Numeral.parse v = .ok c
  char : ∀ c, i.char = some c ↔ ∃ v, .value .char v ∈ us ∧ Numeral.parse v = .ok c
  text : ∀ s, i.text = some s ↔ .value .text s ∈ us
  request : ∀ json, i.request? = some json ↔ .value .request json ∈ us
  down : i.down = true ↔ .flag .down ∈ us
  up : i.up = true ↔ .flag .up ∈ us
  verbose : i.verbose = true ↔ .flag .verbose ∈ us
  tap : (∀ v, .value .tap v ∈ us → Tap.parse v = .ok i.tap) ∧
    ((∀ v, .value .tap v ∉ us) → i.tap = .session)
  source : (∀ v, .value .source v ∈ us → Source.parse v = .ok i.source) ∧
    ((∀ v, .value .source v ∉ us) → i.source = .hidSystem)
  settings : i.settings = { tap := i.tap, source := i.source }

/-! ### Settings of occurrences -/

namespace Occurrence

/-- The setting that an occurrence gives, if its value will do. -/
def setting? : Occurrence → Option Setting
  | value o v => (Setting.ofValue o v).toOption
  | flag f => some (.ofFlag f)
  | query _ => none

/-- The settings of a list of occurrences. -/
def settings (us : List Occurrence) : List Setting :=
  us.filterMap setting?

variable {u : Occurrence} {us : List Occurrence}

@[simp]
lemma setting?_key (v : String) :
    (value .key v).setting? = (Numeral.parse v).toOption.map .key := by
  simp only [setting?, Setting.ofValue, Setting.codeOf]
  cases Numeral.parse v <;> rfl

@[simp]
lemma setting?_char (v : String) :
    (value .char v).setting? = (Numeral.parse v).toOption.map .char := by
  simp only [setting?, Setting.ofValue, Setting.codeOf]
  cases Numeral.parse v <;> rfl

@[simp]
lemma setting?_text (v : String) : (value .text v).setting? = some (.text v) := rfl

@[simp]
lemma setting?_request (v : String) : (value .request v).setting? = some (.request v) := rfl

@[simp]
lemma setting?_tap (v : String) :
    (value .tap v).setting? = (Tap.parse v).toOption.map .tap := by
  simp only [setting?, Setting.ofValue]
  cases Tap.parse v <;> rfl

@[simp]
lemma setting?_source (v : String) :
    (value .source v).setting? = (Source.parse v).toOption.map .source := by
  simp only [setting?, Setting.ofValue]
  cases Source.parse v <;> rfl

@[simp]
lemma setting?_flag (f : Flag) : (flag f).setting? = some (.ofFlag f) := rfl

@[simp]
lemma setting?_query (q : Query) : (query q).setting? = none := rfl

lemma option_of_setting? {s : Setting} (h : u.setting? = some s) : s.option = u.option := by
  cases u with
  | value o v =>
      cases hv : Setting.ofValue o v with
      | error e => simp [setting?, hv, Except.toOption] at h
      | ok s' =>
          simp only [setting?, hv, Except.toOption, Option.some_inj] at h
          exact h ▸ Setting.option_of_ofValue hv
  | flag f => exact Option.some.inj h ▸ Setting.option_ofFlag f
  | query q => exact absurd h (by simp [setting?])

@[simp]
lemma toOption_eq_some_iff {ε α : Type} {x : Except ε α} {a : α} :
    x.toOption = some a ↔ x = .ok a := by
  cases x <;> simp [Except.toOption]

/-- Something holds of an occurrence exactly if it does of one of an option. -/
lemma exists_iff {P : Occurrence → Prop} :
    (∃ u, P u) ↔
      (∃ v, P (value .key v)) ∨ (∃ v, P (value .char v)) ∨ (∃ v, P (value .text v)) ∨
        (∃ v, P (value .request v)) ∨ (∃ v, P (value .tap v)) ∨ (∃ v, P (value .source v)) ∨
        P (flag .down) ∨ P (flag .up) ∨ P (flag .verbose) ∨ ∃ q, P (query q) := by
  constructor
  · rintro ⟨(⟨_ | _ | _ | _ | _ | _, v⟩ | (_ | _ | _) | q), h⟩ <;> tauto
  · rintro (⟨v, h⟩ | ⟨v, h⟩ | ⟨v, h⟩ | ⟨v, h⟩ | ⟨v, h⟩ | ⟨v, h⟩ | h | h | h | ⟨q, h⟩) <;>
      exact ⟨_, h⟩

/-- Something holds of all occurrences exactly if it does of those of each option. -/
lemma forall_iff {P : Occurrence → Prop} :
    (∀ u, P u) ↔
      (∀ v, P (value .key v)) ∧ (∀ v, P (value .char v)) ∧ (∀ v, P (value .text v)) ∧
        (∀ v, P (value .request v)) ∧ (∀ v, P (value .tap v)) ∧ (∀ v, P (value .source v)) ∧
        P (flag .down) ∧ P (flag .up) ∧ P (flag .verbose) ∧ ∀ q, P (query q) := by
  constructor
  · intro h
    exact ⟨fun _ => h _, fun _ => h _, fun _ => h _, fun _ => h _, fun _ => h _, fun _ => h _,
      h _, h _, h _, fun _ => h _⟩
  · rintro ⟨h₁, h₂, h₃, h₄, h₅, h₆, h₇, h₈, h₉, h₁₀⟩
      (⟨_ | _ | _ | _ | _ | _, v⟩ | (_ | _ | _) | q) <;> apply_assumption

lemma mem_settings_iff {s : Setting} :
    s ∈ settings us ↔ ∃ u, u ∈ us ∧ u.setting? = some s :=
  List.mem_filterMap

lemma isSome_toOption_iff {ε α : Type} {x : Except ε α} :
    x.toOption.isSome ↔ ∃ a, x = .ok a := by
  cases x <;> simp [Except.toOption]

end Occurrence

open Occurrence (settings)

variable {r r' : Reading} {u : Occurrence} {us : List Occurrence}

/-- An occurrence is accepted if its value will do and its option was not given before. -/
lemma accept_eq_ok_iff :
    r.accept u = .ok r' ↔ ∃ s, u.setting? = some s ∧ r.take s = .ok r' := by
  cases u with
  | value o v =>
      simp only [Reading.accept, Occurrence.setting?]
      constructor
      · intro h
        obtain ⟨s, hs, ht⟩ := exists_setting_of_takeValue h
        exact ⟨s, by rw [hs]; rfl, ht⟩
      · rintro ⟨s, hs, ht⟩
        cases hv : Setting.ofValue o v with
        | error e => simp [hv, Except.toOption] at hs
        | ok s' =>
            obtain rfl : s' = s := by simpa [hv, Except.toOption] using hs
            have hnot := (take_eq_ok_iff.mp ht).1
            rw [Setting.option_of_ofValue hv] at hnot
            rw [Reading.takeValue, has_eq_false_iff.mpr hnot, hv]
            exact ht
  | flag f => simp [Reading.accept, Occurrence.setting?]
  | query q => simp [Reading.accept, Occurrence.setting?]

/-- Occurrences are accepted if their values will do and no option is given twice; their settings
are then taken in order. -/
lemma acceptAll_eq_ok_iff (hd : Distinct r.given) :
    r.acceptAll us = .ok r' ↔
      (∀ u ∈ us, u.setting?.isSome) ∧ Distinct (r.given ++ settings us) ∧
        r' = { r with given := r.given ++ settings us } := by
  induction us generalizing r with
  | nil =>
      simp only [Reading.acceptAll, settings, List.filterMap_nil, List.append_nil, hd,
        List.not_mem_nil, false_imp_iff, implies_true, true_and, Except.ok.injEq]
      exact eq_comm
  | cons u us ih =>
      rw [Reading.acceptAll]
      cases hacc : r.accept u with
      | ok r₁ =>
          obtain ⟨s, hs, ht⟩ := accept_eq_ok_iff.mp hacc
          have hset : settings (u :: us) = s :: settings us := by simp [settings, hs]
          have hd₁ := hd.take ht
          obtain ⟨-, rfl⟩ := take_eq_ok_iff.mp ht
          refine (ih hd₁).trans ?_
          simp [hset, hs]
      | error e =>
          refine ⟨fun h => by simp [bind, Except.bind] at h, ?_⟩
          rintro ⟨hall, hdist, -⟩
          obtain ⟨s, hs⟩ := Option.isSome_iff_exists.mp (hall u List.mem_cons_self)
          have hset : settings (u :: us) = s :: settings us := by simp [settings, hs]
          have hnot : s.option ∉ r.given.map Setting.option := by
            intro hmem
            rw [hset, Distinct, List.map_append, List.map_cons] at hdist
            exact (List.nodup_append.mp hdist).2.2 _ hmem _ List.mem_cons_self rfl
          have := accept_eq_ok_iff.mpr ⟨s, hs, take_eq_ok_iff.mpr ⟨hnot, rfl⟩⟩
          rw [hacc] at this
          cases this

lemma acceptAll_empty_eq_ok_iff :
    Reading.acceptAll {} us = .ok r' ↔
      (∀ u ∈ us, u.setting?.isSome) ∧ Distinct (settings us) ∧ r' = { given := settings us } :=
  acceptAll_eq_ok_iff List.nodup_nil

/-- What is read from a spelling: the settings of its occurrences, if there are any for all of them,
no option is given twice and the check at the end finds nothing. -/
lemma read_eq_ok_iff_of_spells {args : List String} (h : Spells args us) {i : Invocation} :
    read args = .ok i ↔
      (∀ u ∈ us, u.setting?.isSome) ∧ Distinct (settings us) ∧
        Reading.check (settings us) = none ∧ i = .ofSettings (settings us) := by
  rw [read_of_spells h]
  cases hus : Reading.acceptAll {} us with
  | error e =>
      refine ⟨fun h => by simp [bind, Except.bind] at h, ?_⟩
      rintro ⟨hall, hdist, -⟩
      have := acceptAll_empty_eq_ok_iff.mpr ⟨hall, hdist, rfl⟩
      rw [hus] at this
      cases this
  | ok r =>
      obtain ⟨hall, hdist, rfl⟩ := acceptAll_empty_eq_ok_iff.mp hus
      simp only [bind, Except.bind, Reading.conclude, hdist, true_and]
      cases Reading.check (settings us) with
      | some e => simp
      | none =>
          simp only [Except.ok.injEq]
          exact ⟨fun h => ⟨hall, trivial, h.symm⟩, fun h => h.2.2.symm⟩

/-! ### Acceptable occurrences -/

lemma map_option_settings (hall : ∀ u ∈ us, u.setting?.isSome) :
    (settings us).map Setting.option = us.map Occurrence.option := by
  induction us with
  | nil => rfl
  | cons u us ih =>
      obtain ⟨s, hs⟩ := Option.isSome_iff_exists.mp (hall u List.mem_cons_self)
      have hset : settings (u :: us) = s :: settings us := by simp [settings, hs]
      rw [hset, List.map_cons, List.map_cons, ih fun u hu => hall u (List.mem_cons_of_mem _ hu),
        Occurrence.option_of_setting? hs]

/-- Which options may be given together. -/
lemma no_conflict_iff {os : List OptionName} :
    (∀ o ∈ os, ∀ p ∈ os, ¬ o.conflictsWith p) ↔
      (.value .request ∈ os →
        .value .key ∉ os ∧ .value .char ∉ os ∧ .value .text ∉ os ∧ .flag .down ∉ os ∧
          .flag .up ∉ os) ∧
        ¬ (.value .char ∈ os ∧ .value .text ∈ os) ∧ ¬ (.flag .down ∈ os ∧ .flag .up ∈ os) := by
  constructor
  · intro h
    exact ⟨fun hr => ⟨fun hp => h _ hr _ hp rfl, fun hp => h _ hr _ hp rfl,
      fun hp => h _ hr _ hp rfl, fun hp => h _ hr _ hp rfl, fun hp => h _ hr _ hp rfl⟩,
      fun ⟨hc, ht⟩ => h _ hc _ ht rfl, fun ⟨hd, hu⟩ => h _ hd _ hu rfl⟩
  · rintro ⟨hr, hct, hdu⟩ o ho p hp hop
    have hmem : p ∈ o.conflicts := by simpa [OptionName.conflictsWith] using hop
    rcases o with (_ | _ | _ | _ | _ | _) | (_ | _ | _) | (_ | _) <;>
      simp only [OptionName.conflicts, List.mem_cons, List.not_mem_nil, or_false] at hmem <;> grind

/-- Occurrences are acceptable exactly if each has a setting, none is given twice and the check at
the end finds nothing. -/
lemma acceptable_iff :
    Acceptable us ↔
      (∀ u ∈ us, u.setting?.isSome) ∧ Distinct (settings us) ∧
        Reading.check (settings us) = none := by
  have hvalues : (∀ u ∈ us, u.setting?.isSome) ↔
      (∀ v, .value .key v ∈ us → ∃ c, Numeral.parse v = .ok c) ∧
        (∀ v, .value .char v ∈ us → ∃ c, Numeral.parse v = .ok c) ∧
        (∀ v, .value .tap v ∈ us → ∃ t, Tap.parse v = .ok t) ∧
        (∀ v, .value .source v ∈ us → ∃ s, Source.parse v = .ok s) ∧ ∀ q, .query q ∉ us := by
    simp [Occurrence.forall_iff, Occurrence.isSome_toOption_iff]
  constructor
  · rintro ⟨hquery, hdist, hkey, hchar, htap, hsource, henough, halone, hct, hdu⟩
    have hall := hvalues.mpr ⟨hkey, hchar, htap, hsource, hquery⟩
    refine ⟨hall, ?_, ?_⟩
    · rwa [Distinct, map_option_settings hall]
    · rw [check_eq_none_iff, map_option_settings hall, no_conflict_iff]
      exact ⟨⟨halone, hct, hdu⟩, henough⟩
  · rintro ⟨hall, hdist, hcheck⟩
    rw [check_eq_none_iff, map_option_settings hall, no_conflict_iff] at hcheck
    rw [Distinct, map_option_settings hall] at hdist
    obtain ⟨hkey, hchar, htap, hsource, hquery⟩ := hvalues.mp hall
    obtain ⟨⟨halone, hct, hdu⟩, henough⟩ := hcheck
    exact ⟨hquery, hdist, hkey, hchar, htap, hsource, henough, halone, hct, hdu⟩

/-- The invocation of acceptable occurrences holds their values. -/
lemma reflects_ofSettings (hall : ∀ u ∈ us, u.setting?.isSome) (hd : Distinct (settings us)) :
    (Invocation.ofSettings (settings us)).Reflects us where
  key c := by
    rw [key_eq_some_iff hd, Occurrence.mem_settings_iff]
    simp [Occurrence.exists_iff, Setting.ofFlag]
  char c := by
    rw [char_eq_some_iff hd, Occurrence.mem_settings_iff]
    simp [Occurrence.exists_iff, Setting.ofFlag]
  text t := by
    rw [text_eq_some_iff hd, Occurrence.mem_settings_iff]
    simp [Occurrence.exists_iff, Setting.ofFlag]
  request json := by
    rw [request?_eq_some_iff hd, Occurrence.mem_settings_iff]
    simp [Occurrence.exists_iff, Setting.ofFlag]
  down := by
    rw [down_eq_true_iff hd, Occurrence.mem_settings_iff]
    simp [Occurrence.exists_iff, Setting.ofFlag]
  up := by
    rw [up_eq_true_iff hd, Occurrence.mem_settings_iff]
    simp [Occurrence.exists_iff, Setting.ofFlag]
  verbose := by
    rw [verbose_eq_true_iff hd, Occurrence.mem_settings_iff]
    simp [Occurrence.exists_iff, Setting.ofFlag]
  tap := by
    constructor
    · intro v hv
      obtain ⟨x, hx⟩ : ∃ x, Tap.parse v = .ok x := by
        simpa [Occurrence.isSome_toOption_iff] using hall _ hv
      have hmem : .tap x ∈ settings us :=
        Occurrence.mem_settings_iff.mpr ⟨_, hv, by simp [hx]⟩
      rw [hx, tap_eq_of_mem hd hmem]
    · intro hnone
      refine ownedBy_tap.eq_of_notMem (o := .value .tap) ?_
      simpa [map_option_settings hall, Occurrence.exists_iff, Occurrence.option] using hnone
  source := by
    constructor
    · intro v hv
      obtain ⟨x, hx⟩ : ∃ x, Source.parse v = .ok x := by
        simpa [Occurrence.isSome_toOption_iff] using hall _ hv
      have hmem : .source x ∈ settings us :=
        Occurrence.mem_settings_iff.mpr ⟨_, hv, by simp [hx]⟩
      rw [hx, source_eq_of_mem hd hmem]
    · intro hnone
      refine ownedBy_source.eq_of_notMem (o := .value .source) ?_
      simpa [map_option_settings hall, Occurrence.exists_iff, Occurrence.option] using hnone
  settings := rfl

/-- **Acceptance of spellings**: in whatever order and forms options are spelled, the command line
is read exactly if the occurrences are acceptable, and what is read holds their values. -/
theorem read_iff_acceptable_of_spells {args : List String} {us : List Occurrence}
    (h : Spells args us) :
    ((∃ i, read args = .ok i) ↔ Acceptable us) ∧ ∀ i, read args = .ok i → i.Reflects us := by
  constructor
  · rw [acceptable_iff]
    constructor
    · rintro ⟨i, hi⟩
      obtain ⟨hall, hd, hc, -⟩ := (read_eq_ok_iff_of_spells h).mp hi
      exact ⟨hall, hd, hc⟩
    · rintro ⟨hall, hd, hc⟩
      exact ⟨_, (read_eq_ok_iff_of_spells h).mpr ⟨hall, hd, hc, rfl⟩⟩
  · intro i hi
    obtain ⟨hall, hd, -, rfl⟩ := (read_eq_ok_iff_of_spells h).mp hi
    exact reflects_ofSettings hall hd

/-- A cluster, a value in the next argument and values after an equals sign, read as acceptable
occurrences. -/
theorem read_iff_acceptable_of_spells_mixed :
    ∃ us, Spells ["-vk0x24", "-c=97", "--down", "--tap", "HID", "--source=private"] us ∧
      Acceptable us ∧
      ∃ i, read ["-vk0x24", "-c=97", "--down", "--tap", "HID", "--source=private"] = .ok i ∧
        i.Reflects us := by
  have hnames : Spells ["--tap", "HID", "--source=private"]
      [.value .tap "HID", .value .source "private"] :=
    .longApart .tap (.inr (by decide)) (.longEquals .source "private" .nil)
  have hcodes : Spells ["-k0x24", "-c=97", "--down", "--tap", "HID", "--source=private"]
      [.value .key "0x24", .value .char "97", .flag .down, .value .tap "HID",
        .value .source "private"] :=
    .shortAttached (o := .key) (v := "0x24") rfl (by decide) (by decide)
      (.shortEquals (o := .char) rfl "97" (.long (u := .flag .down) trivial hnames))
  have h := Spells.cluster (u := .flag .verbose) (s := "0x24") trivial rfl
    (by decide : 'k' ≠ '-') hcodes
  have hread : read ["-vk0x24", "-c=97", "--down", "--tap", "HID", "--source=private"] =
      .ok { key := some 0x24, char := some 97, down := true, tap := .hid, source := .ownState,
            verbose := true } := by decide +kernel
  exact ⟨_, h, (read_iff_acceptable_of_spells h).1.mp ⟨_, hread⟩, _, hread,
    (read_iff_acceptable_of_spells h).2 _ hread⟩

end Keystroke.CommandLine
