import Keystroke.Proofs.Json.Records
import Keystroke.Request.Reading

/-!
The documents that hold a request.

* `Request.IsWritten`: how a request may be written, as an object or as an array;
* `Request.slotted`: what the members of an object make of a draft, slot by slot;
* `Request.ofJson_eq_ok_iff_isWritten`: a document is read as a request if and only if it is one of
  the ways to write it.
-/

namespace Keystroke

open Json

/-! ### Directions -/

lemma Direction.proper : Variants.Proper ⟨Direction.all, Direction.name⟩ where
  mem_all d := by cases d <;> simp [Direction.all]
  name_inj {a b} h := by
    cases a <;> cases b <;> first | rfl | exact absurd h (by decide)

lemma Direction.reader_decodes : Direction.reader.Decodes fun v d => v.Names d.name :=
  Direction.proper.reader_decodes

namespace Request

/-! ### Ways to write a request -/

/-- The values of a character code, a key code and a direction that make up a request. -/
structure Parts (r : Request) (character key direction : Value) : Prop where
  character : character.IsCode r.character
  key : key.IsCode r.key
  direction : direction.Names r.direction.name

/-- A request is written as an object that has each of its fields once, whatever other members there
are and wherever they stand, or as an array of its three fields in order. -/
def IsWritten : Value → Request → Prop
  | .object _ ms, r => ∃ character key direction,
      valuesOf "character_code" ms = [character] ∧ valuesOf "key_code" ms = [key] ∧
        valuesOf "direction" ms = [direction] ∧ r.Parts character key direction
  | .list _ items, r => ∃ character key direction,
      items.map Item.value = [character, key, direction] ∧ r.Parts character key direction
  | _, _ => False

/-! ### Drafts -/

lemma readsFields : record.ReadsFields := by
  intro f hf
  simp only [record, fields, List.mem_cons, List.not_mem_nil, or_false] at hf
  rcases hf with rfl | rfl | rfl
  · exact (codeReader_decodes.map _).reads
  · exact (codeReader_decodes.map _).reads
  · exact (Direction.reader_decodes.map _).reads

lemma finish?_eq_some_iff {d : Draft} {r : Request} :
    d.finish? = some r ↔ d = ⟨some r.character, some r.key, some r.direction⟩ := by
  obtain ⟨character, key, direction⟩ := d
  obtain ⟨c, k, dir⟩ := r
  cases character <;> cases key <;> cases direction <;> simp [Draft.finish?]

/-- What the members of an object make of a draft, slot by slot. -/
def Slots (d : Draft) (values : String → List Value) (d' : Draft) : Prop :=
  Slot Value.IsCode d.character (values "character_code") d'.character ∧
    Slot Value.IsCode d.key (values "key_code") d'.key ∧
      Slot (fun v x => v.Names x.name) d.direction (values "direction") d'.direction

/-- A member with a name is taken into the slot of that name, if there is one. -/
lemma takes_iff {d d' : Draft} {n : String} {v : Value} :
    record.Takes d n v d' ↔ Slots d (fun name => if n = name then [v] else []) d' := by
  obtain ⟨character, key, direction⟩ := d
  obtain ⟨character', key', direction'⟩ := d'
  by_cases hc : n = "character_code"
  · subst hc
    rw [Record.takes_of_field (k := record) (f := ⟨"character_code", _, _⟩) rfl
      (codeReader_decodes.map _)]
    simp only [Option.isSome_eq_false_iff, Option.isNone_iff_eq_none, Draft.mk.injEq, Slots, Slot,
      String.reduceEq, ↓reduceIte]
    constructor
    · rintro ⟨hold, x, hx, rfl, rfl, rfl⟩
      exact ⟨⟨hold, x, hx, rfl⟩, rfl, rfl⟩
    · rintro ⟨⟨hold, x, hx, rfl⟩, rfl, rfl⟩
      exact ⟨hold, x, hx, rfl, rfl, rfl⟩
  by_cases hk : n = "key_code"
  · subst hk
    rw [Record.takes_of_field (k := record) (f := ⟨"key_code", _, _⟩) rfl
      (codeReader_decodes.map _)]
    simp only [Option.isSome_eq_false_iff, Option.isNone_iff_eq_none, Draft.mk.injEq, Slots, Slot,
      String.reduceEq, ↓reduceIte]
    constructor
    · rintro ⟨hold, x, hx, rfl, rfl, rfl⟩
      exact ⟨rfl, ⟨hold, x, hx, rfl⟩, rfl⟩
    · rintro ⟨rfl, ⟨hold, x, hx, rfl⟩, rfl⟩
      exact ⟨hold, x, hx, rfl, rfl, rfl⟩
  by_cases hd : n = "direction"
  · subst hd
    rw [Record.takes_of_field (k := record) (f := ⟨"direction", _, _⟩) rfl
      (Direction.reader_decodes.map _)]
    simp only [Option.isSome_eq_false_iff, Option.isNone_iff_eq_none, Draft.mk.injEq, Slots, Slot,
      String.reduceEq, ↓reduceIte]
    constructor
    · rintro ⟨hold, x, hx, rfl, rfl, rfl⟩
      exact ⟨rfl, rfl, hold, x, hx, rfl⟩
    · rintro ⟨rfl, rfl, hold, x, hx, rfl⟩
      exact ⟨hold, x, hx, rfl, rfl, rfl⟩
  · have hnone : record.field? n = none := by
      simp [Record.field?, record, fields, Ne.symm hc, Ne.symm hk, Ne.symm hd]
    rw [Record.Takes, hnone]
    simp only [Slots, Slot, hc, hk, hd, if_false, Draft.mk.injEq]

/-- Slots are filled by some values and then by others. -/
lemma slots_append_iff {d d' : Draft} {vs ws : String → List Value} :
    Slots d (fun name => vs name ++ ws name) d' ↔ ∃ d₁, Slots d vs d₁ ∧ Slots d₁ ws d' := by
  simp only [Slots, slot_append_iff]
  constructor
  · rintro ⟨⟨c, hc, hc'⟩, ⟨k, hk, hk'⟩, ⟨dir, hd, hd'⟩⟩
    exact ⟨⟨c, k, dir⟩, ⟨hc, hk, hd⟩, hc', hk', hd'⟩
  · rintro ⟨d₁, ⟨hc, hk, hd⟩, hc', hk', hd'⟩
    exact ⟨⟨_, hc, hc'⟩, ⟨_, hk, hk'⟩, ⟨_, hd, hd'⟩⟩

lemma slotted : record.Slotted Slots where
  nil_iff {d d'} := by
    cases d
    cases d'
    simp [Slots, Slot]
  append_iff := slots_append_iff
  takes_iff := takes_iff

/-! ### Documents -/

lemma means_object_iff {inner : List Blank} {ms : List (Member Value)} {r : Request}
    (h : ∀ m ∈ ms, ∃ name, m.name.Spells name) :
    record.Means (.object inner ms) r ↔ IsWritten (.object inner ms) r := by
  have hmeans : record.Means (.object inner ms) r ↔
      Slots {} (fun name => valuesOf name ms) ⟨some r.character, some r.key, some r.direction⟩ := by
    simp only [Record.Means]
    constructor
    · rintro ⟨d, hfills, hfinish⟩
      obtain rfl := finish?_eq_some_iff.mp hfinish
      exact (slotted.fills_iff.mp hfills).2
    · intro hslots
      exact ⟨_, slotted.fills_iff.mpr ⟨h, hslots⟩, finish?_eq_some_iff.mpr rfl⟩
  rw [hmeans, Slots]
  simp only [slot_none_some_iff]
  constructor
  · rintro ⟨⟨c, hc, hcode⟩, ⟨k, hk, hkey⟩, ⟨d, hd, hdir⟩⟩
    exact ⟨c, k, d, hc, hk, hd, hcode, hkey, hdir⟩
  · rintro ⟨c, k, d, hc, hk, hd, hcode, hkey, hdir⟩
    exact ⟨⟨c, hc, hcode⟩, ⟨k, hk, hkey⟩, ⟨d, hd, hdir⟩⟩

lemma means_list_iff {inner : List Blank} {items : List (Item Value)} {r : Request} :
    record.Means (.list inner items) r ↔ IsWritten (.list inner items) r := by
  simp only [Record.Means, IsWritten]
  generalize items.map Item.value = vs
  rcases vs with _ | ⟨c, _ | ⟨k, _ | ⟨d, _ | ⟨w, vs⟩⟩⟩⟩
  · simp [record, fields, Record.Lists, Draft.finish?]
  · simp [record, fields, Record.Lists, Draft.finish?, codeReader_decodes.map_reads_iff]
  · simp [record, fields, Record.Lists, Draft.finish?, codeReader_decodes.map_reads_iff]
  · simp [record, fields, Record.Lists, Draft.finish?, codeReader_decodes.map_reads_iff,
      Direction.reader_decodes.map_reads_iff]
    constructor
    · rintro ⟨a, b, e, ⟨hcode, hkey, hdir⟩, rfl⟩
      exact ⟨hcode, hkey, hdir⟩
    · rintro ⟨hcode, hkey, hdir⟩
      exact ⟨r.character, r.key, r.direction, ⟨hcode, hkey, hdir⟩, rfl⟩
  · simp [record, fields, Record.Lists, Draft.finish?, codeReader_decodes.map_reads_iff,
      Direction.reader_decodes.map_reads_iff]

/-- **Documents of requests**: a document whose outermost names are texts is read as a request if
and only if that is one of the ways to write the request. -/
theorem ofJson_eq_ok_iff_isWritten {d : Document} {r : Request}
    (h : ∀ m ∈ d.value.members, ∃ name, m.name.Spells name) :
    ofJson (String.ofList d.text) = .ok r ↔ IsWritten d.value r := by
  have hdoc : ofJson (String.ofList d.text) = .ok r ↔ record.Means d.value r :=
    (Record.reader_decodes readsFields).parse_eq_ok_iff
  rw [hdoc]
  cases hv : d.value with
  | object inner ms =>
      rw [hv] at h
      exact means_object_iff h
  | list inner items => exact means_list_iff
  | null => exact Iff.rfl
  | boolean b => exact Iff.rfl
  | number n => exact Iff.rfl
  | string s => exact Iff.rfl

/-- A string whose characters stand as they are. -/
def plainly (s : String) : StringText :=
  s.toList.filterMap fun c =>
    if h : 0x20 ≤ c.toNat ∧ c ≠ '"' ∧ c ≠ '\\' then some (.plain ⟨c, h⟩) else none

/-- An object with the fields of a request in another order, an underscore written as an escape, and
a member that is no field: an array with a lone surrogate and a number beyond all bounds. -/
def shuffled : Document where
  before := [.lineFeed]
  value := .object [.space]
    [{ name := plainly "key" ++
        .unicode (.ofNat 0 false) (.ofNat 0 false) (.ofNat 5 false) (.ofNat 15 true) ::
          plainly "code"
       value := .number ⟨false, .ofDigits (.ofNat 6) [.ofNat 5, .ofNat 5, .ofNat 3, .ofNat 5], none,
        none⟩ },
     { name := plainly "more"
       value := .list []
        [{ value := .string [.unicode (.ofNat 13 false) (.ofNat 8 true) (.ofNat 0 false)
            (.ofNat 0 false)] },
         { before := [.tab]
           value := .number ⟨true, .ofDigits (.ofNat 1) [], none,
            some ⟨true, none, ⟨.ofNat 9, [.ofNat 9, .ofNat 9]⟩⟩⟩ }] },
     { name := plainly "direction"
       value := .object [] [{ name := plainly "up", value := .null }] },
     { name := plainly "character_code"
       value := .number ⟨false, .ofDigits (.ofNat 0) [], none, none⟩
       after := [.carriageReturn] }]

theorem ofJson_eq_ok_iff_isWritten_shuffled :
    (∀ m ∈ shuffled.value.members, ∃ name, m.name.Spells name) ∧
      ofJson (String.ofList shuffled.text) = .ok ⟨0, 65535, .up⟩ := by
  have h : ∀ m ∈ shuffled.value.members, ∃ name, m.name.Spells name := by
    intro m hm
    simp only [shuffled, Value.members, List.mem_cons, List.not_mem_nil, or_false] at hm
    rcases hm with rfl | rfl | rfl | rfl
    · exact ⟨"key_code", by decide⟩
    · exact ⟨"more", by decide⟩
    · exact ⟨"direction", by decide⟩
    · exact ⟨"character_code", by decide⟩
  refine ⟨h, (ofJson_eq_ok_iff_isWritten h).mpr ⟨_, _, _, rfl, rfl, rfl, ?_⟩⟩
  exact ⟨⟨_, rfl, ⟨rfl, rfl, rfl⟩, by decide⟩, ⟨_, rfl, ⟨rfl, rfl, rfl⟩, by decide⟩,
    .object (by decide) rfl⟩

end Request

end Keystroke
