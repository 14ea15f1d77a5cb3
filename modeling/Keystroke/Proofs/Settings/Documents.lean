import Keystroke.Proofs.Json.Records
import Keystroke.Proofs.Settings.Names

/-!
The documents that hold settings.

* `Settings.tapValues`, `Settings.sourceValues`: what stands for the tap and for the source, in an
  object and in an array;
* `Settings.States`: the tap and the source that a value states, each of which it may leave out;
* `Settings.slotted`: what the members of an object make of a draft, slot by slot;
* `Settings.ofJson_eq_ok_iff_states`: a document is read as the default settings with the tap and
  the source that it states, and not at all if it states anything else.
-/

namespace Keystroke.Settings

open Json

/-! ### What documents state -/

/-- The values that stand for the tap: those of the members with its name, or the first element. -/
def tapValues : Value → List Value
  | .object _ ms => valuesOf "tap_location" ms
  | .list _ items => (items.map Item.value).take 1
  | _ => []

/-- The values that stand for the source: those of the members with its name, or the elements from
the second on. -/
def sourceValues : Value → List Value
  | .object _ ms => valuesOf "source_state" ms
  | .list _ items => (items.map Item.value).drop 1
  | _ => []

/-- A container states a tap and a source.  Each of them stands there once, by its full name, or is
left out. -/
structure States (v : Value) (tap : Option Tap) (source : Option Source) : Prop where
  container : v.IsContainer
  tap : Held (fun w t => w.Names t.name) (tapValues v) tap
  source : Held (fun w s => w.Names s.name) (sourceValues v) source

/-- The default settings, with the tap and the source that are given. -/
def ofGiven (tap : Option Tap) (source : Option Source) : Settings :=
  let s := tap.elim {} ({} : Settings).withTap
  source.elim s s.withSource

lemma ofGiven_eq (tap : Option Tap) (source : Option Source) :
    ofGiven tap source = ⟨tap.getD .session, source.getD .hidSystem⟩ := by
  cases tap <;> cases source <;> rfl

lemma finish_eq_ofGiven (d : Draft) : d.finish = ofGiven d.tap d.source :=
  (ofGiven_eq d.tap d.source).symm

/-! ### Drafts -/

lemma readsFields : record.ReadsFields := by
  intro f hf
  simp only [record, fields, List.mem_cons, List.not_mem_nil, or_false] at hf
  rcases hf with rfl | rfl
  · exact (Tap.reader_decodes.map _).reads
  · exact (Source.reader_decodes.map _).reads

variable {d d' : Draft} {v : Value}

lemma takes_tap_iff : record.Takes d "tap_location" v d' ↔
    d.tap.isSome = false ∧ ∃ t : Tap, v.Names t.name ∧ d' = { d with tap := some t } := by
  rw [Record.takes_of_field (k := record) (f := ⟨"tap_location", _, _⟩) rfl
    (Tap.reader_decodes.map _)]

lemma takes_source_iff : record.Takes d "source_state" v d' ↔
    d.source.isSome = false ∧ ∃ s : Source, v.Names s.name ∧ d' = { d with source := some s } := by
  rw [Record.takes_of_field (k := record) (f := ⟨"source_state", _, _⟩) rfl
    (Source.reader_decodes.map _)]

/-- What the members of an object make of a draft, slot by slot. -/
def Slots (d : Draft) (values : String → List Value) (d' : Draft) : Prop :=
  Slot (fun v (t : Tap) => v.Names t.name) d.tap (values "tap_location") d'.tap ∧
    Slot (fun v (s : Source) => v.Names s.name) d.source (values "source_state") d'.source

/-- A member with a name is taken into the slot of that name, if there is one. -/
lemma takes_iff {n : String} :
    record.Takes d n v d' ↔ Slots d (fun name => if n = name then [v] else []) d' := by
  obtain ⟨tap, source⟩ := d
  obtain ⟨tap', source'⟩ := d'
  by_cases ht : n = "tap_location"
  · subst ht
    simp only [takes_tap_iff, Option.isSome_eq_false_iff, Option.isNone_iff_eq_none,
      Draft.mk.injEq, Slots, Slot, String.reduceEq, ↓reduceIte]
    constructor
    · rintro ⟨hold, t, ht, rfl, rfl⟩
      exact ⟨⟨hold, t, ht, rfl⟩, rfl⟩
    · rintro ⟨⟨hold, t, ht, rfl⟩, rfl⟩
      exact ⟨hold, t, ht, rfl, rfl⟩
  by_cases hs : n = "source_state"
  · subst hs
    simp only [takes_source_iff, Option.isSome_eq_false_iff, Option.isNone_iff_eq_none,
      Draft.mk.injEq, Slots, Slot, String.reduceEq, ↓reduceIte]
    constructor
    · rintro ⟨hold, s, hs, rfl, rfl⟩
      exact ⟨rfl, hold, s, hs, rfl⟩
    · rintro ⟨rfl, hold, s, hs, rfl⟩
      exact ⟨hold, s, hs, rfl, rfl⟩
  · have hnone : record.field? n = none := by
      simp [Record.field?, record, fields, Ne.symm ht, Ne.symm hs]
    rw [Record.Takes, hnone]
    simp only [Slots, Slot, ht, hs, if_false, Draft.mk.injEq]

lemma slotted : record.Slotted Slots where
  nil_iff {d d'} := by
    cases d
    cases d'
    simp [Slots, Slot]
  append_iff {d d' vs ws} := by
    simp only [Slots, slot_append_iff]
    constructor
    · rintro ⟨⟨t, ht, ht'⟩, s, hs, hs'⟩
      exact ⟨⟨t, s⟩, ⟨ht, hs⟩, ht', hs'⟩
    · rintro ⟨d₁, ⟨ht, hs⟩, ht', hs'⟩
      exact ⟨⟨_, ht, ht'⟩, _, hs, hs'⟩
  takes_iff := takes_iff

/-- What the elements of an array make of the empty draft. -/
lemma lists_iff {vs : List Value} : record.Lists record.fields {} vs d ↔
    Held (fun v (t : Tap) => v.Names t.name) (vs.take 1) d.tap ∧
      Held (fun v (s : Source) => v.Names s.name) (vs.drop 1) d.source := by
  obtain ⟨tap, source⟩ := d
  rcases vs with _ | ⟨t, _ | ⟨s, _ | ⟨w, vs⟩⟩⟩
  · simp [record, fields, Record.Lists]
  · simp only [record, fields, Record.Lists, Tap.reader_decodes.map_reads_iff, Option.isSome_some,
      true_and, exists_exists_and_eq_and, Draft.mk.injEq, List.take_succ_cons, List.take_nil,
      held_singleton_iff, List.drop_succ_cons, List.drop_nil, held_nil_iff]
    constructor
    · rintro ⟨x, hx, ht, hs⟩
      exact ⟨⟨x, hx, ht⟩, hs⟩
    · rintro ⟨⟨x, hx, ht⟩, hs⟩
      exact ⟨x, hx, ht, hs⟩
  · simp only [record, fields, Record.Lists, Tap.reader_decodes.map_reads_iff,
      Source.reader_decodes.map_reads_iff, exists_exists_and_eq_and, Draft.mk.injEq,
      List.take_succ_cons, List.take_zero, held_singleton_iff, List.drop_succ_cons, List.drop_zero]
    constructor
    · rintro ⟨x, hx, y, hy, ht, hs⟩
      exact ⟨⟨x, hx, ht⟩, y, hy, hs⟩
    · rintro ⟨⟨x, hx, ht⟩, y, hy, hs⟩
      exact ⟨x, hx, y, hy, ht, hs⟩
  · simp [record, fields, Record.Lists]

/-! ### Documents -/

/-- The names of the members matter in an object only. -/
lemma means_iff {s : Settings} (h : ∀ m ∈ v.members, ∃ name, m.name.Spells name) :
    record.Means v s ↔ ∃ tap source, States v tap source ∧ s = ofGiven tap source := by
  have hfinish : ∀ {P : Draft → Prop}, (∃ d, P d ∧ record.finish? d = some s) ↔
      ∃ tap source, P ⟨tap, source⟩ ∧ s = ofGiven tap source := by
    intro P
    constructor
    · rintro ⟨d, hd, hs⟩
      exact ⟨d.tap, d.source, hd, (Option.some.inj hs).symm.trans (finish_eq_ofGiven d)⟩
    · rintro ⟨tap, source, hd, rfl⟩
      exact ⟨_, hd, congrArg some (finish_eq_ofGiven _)⟩
  cases v with
  | object inner ms =>
      rw [Record.Means, hfinish]
      refine exists₂_congr fun tap source => and_congr_left fun _ => ?_
      refine slotted.fills_iff.trans ?_
      constructor
      · rintro ⟨-, ht, hs⟩
        exact ⟨trivial, slot_none_iff.mp ht, slot_none_iff.mp hs⟩
      · rintro ⟨-, ht, hs⟩
        exact ⟨h, slot_none_iff.mpr ht, slot_none_iff.mpr hs⟩
  | list inner items =>
      rw [Record.Means, hfinish]
      refine exists₂_congr fun tap source => and_congr_left fun _ => ?_
      refine lists_iff.trans ?_
      exact ⟨fun ⟨ht, hs⟩ => ⟨trivial, ht, hs⟩, fun ⟨_, ht, hs⟩ => ⟨ht, hs⟩⟩
  | null => exact ⟨False.elim, fun ⟨_, _, hv, _⟩ => hv.container⟩
  | boolean b => exact ⟨False.elim, fun ⟨_, _, hv, _⟩ => hv.container⟩
  | number n => exact ⟨False.elim, fun ⟨_, _, hv, _⟩ => hv.container⟩
  | string s => exact ⟨False.elim, fun ⟨_, _, hv, _⟩ => hv.container⟩

lemma ofJson_eq_ok_iff {d : Document} {s : Settings}
    (h : ∀ m ∈ d.value.members, ∃ name, m.name.Spells name) :
    ofJson (String.ofList d.text) = .ok s ↔
      ∃ tap source, States d.value tap source ∧ s = ofGiven tap source :=
  (Record.reader_decodes readsFields).parse_eq_ok_iff.trans (means_iff h)

/-- What stands for a field and is not one of its names cannot be left out. -/
lemma exists_names_of_held {α : Type} {name : α → String} {vs : List Value} {a : Option α}
    (h : Held (fun w x => w.Names (name x)) vs a) (hv : v ∈ vs) : ∃ x, v.Names (name x) := by
  cases h with
  | absent => simp at hv
  | @present w x hx =>
      obtain rfl := List.mem_singleton.mp hv
      exact ⟨x, hx⟩

lemma exists_error_of_misnames {d : Document}
    (h : ∀ m ∈ d.value.members, ∃ name, m.name.Spells name)
    (hmis : (∃ w ∈ tapValues d.value, Tap.naming.Misnames w) ∨
      ∃ w ∈ sourceValues d.value, Source.naming.Misnames w) :
    ∃ e, ofJson (String.ofList d.text) = .error e := by
  cases hread : ofJson (String.ofList d.text) with
  | error e => exact ⟨e, rfl⟩
  | ok s =>
      obtain ⟨tap, source, hstates, -⟩ := (ofJson_eq_ok_iff h).mp hread
      rcases hmis with ⟨w, hw, hmis⟩ | ⟨w, hw, hmis⟩
      · obtain ⟨t, ht⟩ := exists_names_of_held hstates.tap hw
        exact absurd ht (Tap.naming_proper.not_names_of_misnames hmis t)
      · obtain ⟨t, ht⟩ := exists_names_of_held hstates.source hw
        exact absurd ht (Source.naming_proper.not_names_of_misnames hmis t)

/-- **Documents of settings**: a document whose outermost names are texts is read as settings if and
only if it states a tap and a source, each of them once or not at all.  They are then set in the
default settings, so that what is left out is as it is there.  Null, a short name or a name in
another case in either place is refused. -/
theorem ofJson_eq_ok_iff_states {d : Document}
    (h : ∀ m ∈ d.value.members, ∃ name, m.name.Spells name) :
    (∀ s, ofJson (String.ofList d.text) = .ok s ↔
      ∃ tap source, States d.value tap source ∧ s = ofGiven tap source) ∧
    (∀ tap source, ofGiven tap source = ⟨tap.getD .session, source.getD .hidSystem⟩) ∧
    ((∃ v ∈ tapValues d.value, Tap.naming.Misnames v) ∨
      (∃ v ∈ sourceValues d.value, Source.naming.Misnames v) →
        ∃ e, ofJson (String.ofList d.text) = .error e) :=
  ⟨fun _ => ofJson_eq_ok_iff h, ofGiven_eq, exists_error_of_misnames h⟩

/-- A string by its characters. -/
def quotedName (name : String) : Value :=
  .string (.ofString name)

/-- An object without a tap. Its source is a member with null, the name of it has an escape, and
another member holds a lone surrogate. -/
def withoutTap : Document where
  before := [.tab]
  value := .object [.space]
    [{ name := .ofString "tap"
       value := .list [] [{ value := .string [.unicode (.ofNat 13 true) (.ofNat 8 true)
         (.ofNat 0 true) (.ofNat 0 true)] }] },
     { name := .unicode (.ofNat 0 true) (.ofNat 0 true) (.ofNat 7 true) (.ofNat 3 true) ::
         StringText.ofString "ource_state"
       value := .object [] [{ name := .ofString "private", value := .null }]
       after := [.lineFeed] }]

lemma spells_withoutTap : ∀ m ∈ withoutTap.value.members, ∃ name, m.name.Spells name := by
  simp only [withoutTap, Value.members, List.forall_mem_cons]
  exact ⟨⟨"tap", by decide⟩, ⟨"source_state", by decide⟩, by simp⟩

lemma states_withoutTap : States withoutTap.value none (some .ownState) :=
  ⟨trivial, .absent, .present (.object (by decide) rfl)⟩

/-- The source of an array by its short name. -/
def shortSource : Document where
  value := .list [] [{ value := quotedName "hid" }, { value := quotedName "hid" }]

theorem ofJson_eq_ok_iff_states_withoutTap :
    (∀ m ∈ withoutTap.value.members, ∃ name, m.name.Spells name) ∧
      ofJson (String.ofList withoutTap.text) = .ok (({} : Settings).withSource .ownState) ∧
      ∃ e, ofJson (String.ofList shortSource.text) = .error e := by
  have hshort : Source.naming.Misnames (quotedName "hid") :=
    .inr ⟨"hid", .hidSystem, .string (StringText.spells_ofString _), by decide +kernel, by decide⟩
  have hmembers : ∀ m ∈ shortSource.value.members, ∃ name, m.name.Spells name := by
    simp [shortSource, Value.members]
  refine ⟨spells_withoutTap, ?_, ?_⟩
  · exact ((ofJson_eq_ok_iff_states spells_withoutTap).1 _).mpr ⟨_, _, states_withoutTap, rfl⟩
  · exact (ofJson_eq_ok_iff_states hmembers).2.2
      (.inr ⟨_, by simp [shortSource, sourceValues], hshort⟩)

end Keystroke.Settings
