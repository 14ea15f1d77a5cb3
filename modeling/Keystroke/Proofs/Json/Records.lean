import Keystroke.Json.Record
import Keystroke.Proofs.Json.Decoding

/-!
Records on the values of a document.

* `Slot`, `Held`: what the values under one name make of a slot that may be filled once, and what
  they say if it was empty;
* `Record.Takes`, `Record.Fills`: what one member makes of a draft, and what all members of an
  object make of it, name by name (`Slotted.fills_iff`);
* `Record.Lists`: what the elements of an array make of a draft;
* `Record.reader_decodes`: a record is read from the objects and the arrays whose drafts are enough.
-/

namespace Keystroke.Json

/-! ### Slots -/

section

variable {β : Type} {Den : Value → β → Prop}

/-- What the values that stand under one name make of a slot: each fills it, and only while it is
empty. -/
def Slot (Den : Value → β → Prop) : Option β → List Value → Option β → Prop
  | old, [], new => new = old
  | old, v :: vs, new => old = none ∧ ∃ x, Den v x ∧ Slot Den (some x) vs new

lemma slot_append_iff {old new : Option β} {vs ws : List Value} :
    Slot Den old (vs ++ ws) new ↔ ∃ mid, Slot Den old vs mid ∧ Slot Den mid ws new := by
  induction vs generalizing old with
  | nil =>
      constructor
      · intro h
        exact ⟨old, rfl, h⟩
      · rintro ⟨_, rfl, h⟩
        exact h
  | cons v vs ih =>
      simp only [List.cons_append, Slot, ih]
      constructor
      · rintro ⟨hold, x, hx, mid, h, h'⟩
        exact ⟨mid, ⟨hold, x, hx, h⟩, h'⟩
      · rintro ⟨mid, ⟨hold, x, hx, h⟩, h'⟩
        exact ⟨hold, x, hx, mid, h, h'⟩

/-- An empty slot is filled by one value. -/
lemma slot_none_some_iff {vs : List Value} {x : β} :
    Slot Den none vs (some x) ↔ ∃ v, vs = [v] ∧ Den v x := by
  rcases vs with _ | ⟨v, _ | ⟨w, vs⟩⟩
  · simp [Slot]
  · simp only [Slot, true_and, Option.some.injEq, List.cons.injEq, and_true]
    constructor
    · rintro ⟨y, hy, rfl⟩
      exact ⟨v, rfl, hy⟩
    · rintro ⟨_, rfl, hx⟩
      exact ⟨x, hx, rfl⟩
  · simp [Slot]

/-- The values that stand in one place leave it out, or are just one, which means something. -/
inductive Held (Den : Value → β → Prop) : List Value → Option β → Prop where
  | absent : Held Den [] none
  | present {v : Value} {x : β} (h : Den v x) : Held Den [v] (some x)

@[simp]
lemma held_nil_iff {new : Option β} : Held Den [] new ↔ new = none := by
  constructor
  · rintro ⟨⟩
    rfl
  · rintro rfl
    exact .absent

@[simp]
lemma held_singleton_iff {v : Value} {new : Option β} :
    Held Den [v] new ↔ ∃ x, Den v x ∧ new = some x := by
  constructor
  · intro h
    cases h with
    | present h => exact ⟨_, h, rfl⟩
  · rintro ⟨x, h, rfl⟩
    exact .present h

@[simp]
lemma not_held_cons_cons {v w : Value} {vs : List Value} {new : Option β} :
    ¬ Held Den (v :: w :: vs) new :=
  nofun

lemma slot_none_iff {vs : List Value} {new : Option β} :
    Slot Den none vs new ↔ Held Den vs new := by
  rcases vs with _ | ⟨v, _ | ⟨w, vs⟩⟩ <;> simp [Slot]

/-- The values under a name of a member and those behind it. -/
lemma valuesOf_cons {n name : String} {m : Member Value} {ms : List (Member Value)}
    (h : m.name.Spells n) :
    valuesOf name (m :: ms) = (if n = name then [m.value] else []) ++ valuesOf name ms := by
  rw [valuesOf, valuesOf, List.filter_cons]
  by_cases hn : n = name
  · subst hn
    simp [h]
  · have hnot : ¬m.name.Spells name := fun h' => hn (h.unique h')
    simp [hnot, hn]

end

namespace Record

variable {σ α : Type} (k : Record σ α)

/-! ### Objects -/

/-- A draft takes a member: a field it does not have yet with the value it is read as, and any other
member without a change. -/
def Takes (draft : σ) (name : String) (v : Value) (draft' : σ) : Prop :=
  match k.field? name with
  | some f => f.isSet draft = false ∧ ∃ set, f.value.Reads v set ∧ draft' = set draft
  | none => draft' = draft

/-- A draft takes the members of an object one after another. The name of each must spell
something. -/
inductive Fills : σ → List (Member Value) → σ → Prop where
  | nil (draft : σ) : Fills draft [] draft
  | cons {draft draft₁ draft' : σ} {name : String} {m : Member Value} {ms : List (Member Value)}
      (hname : m.name.Spells name) (h : k.Takes draft name m.value draft₁)
      (h' : Fills draft₁ ms draft') : Fills draft (m :: ms) draft'

lemma takes_of_field {k : Record σ α} {β : Type} {Den : Value → β → Prop} {put : β → σ → σ}
    {f : Field σ} {name : String} {v : Value} {draft draft' : σ} (hf : k.field? name = some f)
    (h : f.value.Decodes fun v set => ∃ x, Den v x ∧ put x = set) :
    k.Takes draft name v draft' ↔ f.isSet draft = false ∧ ∃ x, Den v x ∧ draft' = put x draft := by
  rw [Takes, hf]
  simp only [h.reads_iff]
  refine and_congr_right fun _ => ?_
  constructor
  · rintro ⟨_, ⟨x, hx, rfl⟩, rfl⟩
    exact ⟨x, hx, rfl⟩
  · rintro ⟨x, hx, rfl⟩
    exact ⟨_, ⟨x, hx, rfl⟩, rfl⟩

/-- The members of an object reach a draft by their names alone: what they make of it can be said
name by name, from the values that stand under each. -/
structure Slotted (S : σ → (String → List Value) → σ → Prop) : Prop where
  nil_iff : ∀ {draft draft'}, S draft (fun _ => []) draft' ↔ draft' = draft
  append_iff : ∀ {draft draft' vs ws}, S draft (fun name => vs name ++ ws name) draft' ↔
    ∃ draft₁, S draft vs draft₁ ∧ S draft₁ ws draft'
  takes_iff : ∀ {draft draft' n v}, k.Takes draft n v draft' ↔
    S draft (fun name => if n = name then [v] else []) draft'

/-- The members of an object fill the slots of their names. -/
lemma Slotted.fills_iff {k : Record σ α} {S : σ → (String → List Value) → σ → Prop}
    (h : k.Slotted S) {draft draft' : σ} {ms : List (Member Value)} :
    k.Fills draft ms draft' ↔
      (∀ m ∈ ms, ∃ name, m.name.Spells name) ∧ S draft (fun name => valuesOf name ms) draft' := by
  induction ms generalizing draft with
  | nil =>
      constructor
      · rintro ⟨⟩
        exact ⟨by simp, h.nil_iff.mpr rfl⟩
      · rintro ⟨-, hslots⟩
        obtain rfl := h.nil_iff.mp hslots
        exact .nil _
  | cons m ms ih =>
      constructor
      · rintro ⟨⟩
        rename_i draft₁ n hname htakes hfills
        obtain ⟨hnames, hslots⟩ := ih.mp hfills
        refine ⟨List.forall_mem_cons.mpr ⟨⟨n, hname⟩, hnames⟩, ?_⟩
        simp only [valuesOf_cons hname]
        exact h.append_iff.mpr ⟨draft₁, h.takes_iff.mp htakes, hslots⟩
      · rintro ⟨hnames, hslots⟩
        obtain ⟨⟨n, hname⟩, hnames⟩ := List.forall_mem_cons.mp hnames
        simp only [valuesOf_cons hname] at hslots
        obtain ⟨draft₁, htakes, hslots⟩ := h.append_iff.mp hslots
        exact .cons hname (h.takes_iff.mpr htakes) (ih.mpr ⟨hnames, hslots⟩)

/-- The fields of a record can be read wherever they stand. -/
def ReadsFields : Prop :=
  ∀ f ∈ k.fields, f.value.Decodes f.value.Reads

lemma gives_nameFrom_quoted (s : StringText) (t : List Char) :
    Gives (nameFrom (s.quoted ++ t)) (fun name => ∃ n, name = some n ∧ s.Spells n) t := by
  rw [StringText.quoted_append, nameFrom]
  rcases (gives_stringBody_text s t).cases with ⟨cs, hb, hs, -⟩ | ⟨f, hb, hno⟩
  · rw [hb]
    refine gives_ok ⟨_, rfl, hs⟩ ?_
    rintro _ ⟨n, rfl, hn⟩
    rw [hn.unique hs]
  · rw [hb]
    refine gives_error ?_
    rintro _ ⟨n, rfl, hn⟩
    refine hno n.toList ?_
    rwa [String.ofList_toList]

lemma nextName_text (first : Bool) (bs before : List Blank) (s : StringText) (t : List Char) :
    nextName first (blanks bs ++ (comma first ++ (blanks before ++ (s.quoted ++ t))))
      = nameFrom (s.quoted ++ t) := by
  rw [StringText.quoted_append]
  cases first with
  | true =>
      have hs := (skipSpace_blanks bs _).trans
        (skipSpace_blanks_cons before (c := '"') (by decide) (s.text ++ '"' :: t))
      rw [comma_true_append, nextName, hs]
      rfl
  | false =>
      have hs := skipSpace_blanks_cons bs (c := ',') (by decide)
        (blanks before ++ '"' :: (s.text ++ '"' :: t))
      rw [comma_false_append, nextName, hs]
      show nameFrom (skipSpace (blanks before ++ '"' :: (s.text ++ '"' :: t))) = _
      rw [skipSpace_blanks_cons before (by decide)]

lemma nextName_end {first : Bool} {s r : List Char} (h : skipSpace s = '\x7d' :: r) :
    nextName first s = .ok (none, r) := by
  rw [nextName, h]
  rfl

variable {k}

lemma gives_memberValue_text (hk : k.ReadsFields) (draft : σ) (name : String) (v : Value)
    (bs bs' : List Blank) {rest : List Char} (hrest : Ends rest) :
    Gives (k.memberValue draft name (blanks bs ++ ':' :: (blanks bs' ++ (v.text ++ rest))))
      (k.Takes draft name v) rest := by
  unfold Takes
  rw [memberValue]
  cases hf : k.field? name with
  | none =>
      simp only [colon_text, skipValue_text v bs' hrest]
      exact gives_ok rfl fun draft' h => h
  | some f =>
      by_cases hset : f.isSet draft = true
      · simp only [hset, if_true]
        exact gives_error fun draft' h => by simp at h
      · simp only [colon_text, hset]
        rcases (hk f (List.mem_of_find?_eq_some hf) v bs' rest hrest).cases with
          ⟨set, hrun, hreads, huniq⟩ | ⟨e, hrun, hno⟩
        · rw [hrun]
          refine gives_ok ⟨trivial, set, hreads, rfl⟩ ?_
          rintro _ ⟨-, set', hreads', rfl⟩
          rw [huniq set' hreads']
        · rw [hrun]
          refine gives_error ?_
          rintro _ ⟨-, set', hreads', -⟩
          exact hno set' hreads'

/-- A member is read with its name: the draft takes it. -/
lemma gives_nextMember_text (hk : k.ReadsFields) (first : Bool) (draft : σ) (bs : List Blank)
    (m : Member Value) {rest : List Char} (hrest : Ends rest) :
    Gives (k.nextMember first draft (blanks bs ++ (comma first ++ (blanks m.beforeName ++
        (m.name.quoted ++ (blanks m.afterName ++ ':' ::
          (blanks m.beforeValue ++ (m.value.text ++ rest))))))))
      (fun o => ∃ name draft', o = some draft' ∧ m.name.Spells name ∧
        k.Takes draft name m.value draft') rest := by
  rw [nextMember, nextName_text]
  rcases (gives_nameFrom_quoted m.name _).cases with ⟨_, hn, ⟨name, rfl, hname⟩, -⟩ | ⟨f, hn, hno⟩
  · rw [hn]
    dsimp only
    rcases (gives_memberValue_text hk draft name m.value m.afterName m.beforeValue hrest).cases with
      ⟨draft', hv, htakes, huniq⟩ | ⟨f, hv, hno⟩
    · rw [hv]
      refine gives_ok ⟨name, draft', rfl, hname, htakes⟩ ?_
      rintro _ ⟨name', draft₁, rfl, hname', htakes'⟩
      rw [huniq draft₁ (hname'.unique hname ▸ htakes')]
    · rw [hv]
      refine gives_error ?_
      rintro _ ⟨name', draft₁, rfl, hname', htakes'⟩
      exact hno draft₁ (hname'.unique hname ▸ htakes')
  · rw [hn]
    refine gives_error ?_
    rintro _ ⟨name, -, -, hname, -⟩
    exact hno (some name) ⟨name, rfl, hname⟩

lemma members_of_none {first : Bool} {draft : σ} {s r : List Char}
    (h : k.nextMember first draft s = .ok (none, r)) :
    k.members first draft s = .ok (draft, r) := by
  rw [members]
  split <;> simp_all

lemma members_of_some {first : Bool} {draft draft' : σ} {s r : List Char}
    (h : k.nextMember first draft s = .ok (some draft', r)) :
    k.members first draft s = k.members false draft' r := by
  rw [members]
  split <;> simp_all

lemma members_of_error {first : Bool} {draft : σ} {s : List Char} {f : Fault}
    (h : k.nextMember first draft s = .error f) : k.members first draft s = .error f := by
  rw [members]
  split <;> simp_all

/-- The members of an object are read if and only if a draft takes all of them. -/
lemma gives_members_text (hk : k.ReadsFields) (ms : List (Member Value)) (first : Bool) (draft : σ)
    (bs : List Blank) (rest : List Char) :
    Gives (k.members first draft (blanks bs ++ (Value.membersText first ms ++ '\x7d' :: rest)))
      (k.Fills draft ms) rest := by
  induction ms generalizing first draft bs with
  | nil =>
      have hend : k.nextMember first draft (blanks bs ++ '\x7d' :: rest) = .ok (none, rest) := by
        rw [nextMember, nextName_end (skipSpace_blanks_cons bs (by decide) rest)]
      rw [Value.membersText, List.nil_append, members_of_none hend]
      refine gives_ok (.nil draft) ?_
      rintro _ ⟨⟩
      rfl
  | cons m ms ih =>
      have hends := (ends_membersText ms rest).blanks m.after
      rw [Value.membersText_cons_append]
      rcases (gives_nextMember_text hk first draft bs m hends).cases with
        ⟨_, hm, ⟨name, draft₁, rfl, hname, htakes⟩, huniq⟩ | ⟨f, hm, hno⟩
      · intro draft' r
        rw [members_of_some hm, ih false draft₁ m.after draft' r]
        refine and_congr_left fun _ => ⟨.cons hname htakes, ?_⟩
        rintro ⟨⟩
        rename_i draft₂ name' hname' htakes' hfills
        have heq := huniq (some draft₂) ⟨name', draft₂, rfl, hname', htakes'⟩
        exact Option.some.inj heq ▸ hfills
      · rw [members_of_error hm]
        refine gives_error ?_
        rintro draft' ⟨⟩
        rename_i draft₂ name' hname' htakes' hfills
        exact hno (some draft₂) ⟨name', draft₂, rfl, hname', htakes'⟩

/-! ### Arrays -/

variable (k) in
/-- A draft takes the elements of an array, one for each of the given fields. The array may be
shorter if the draft is enough. -/
def Lists : List (Field σ) → σ → List Value → σ → Prop
  | [], draft, [], draft' => draft' = draft
  | [], _, _ :: _, _ => False
  | _ :: _, draft, [], draft' => (k.finish? draft).isSome ∧ draft' = draft
  | f :: fields, draft, v :: vs, draft' =>
      ∃ set, f.value.Reads v set ∧ Lists fields (set draft) vs draft'

lemma nextElement_first {s t : List Char} {c : Char} (hs : skipSpace s = c :: t) (hc : c ≠ ']') :
    nextElement true s = .ok (true, c :: t) := by
  rw [nextElement, hs]
  split <;> simp_all

lemma nextElement_comma {s r t : List Char} {c : Char} (hs : skipSpace s = ',' :: r)
    (hr : skipSpace r = c :: t) (hc : c ≠ ']') : nextElement false s = .ok (true, c :: t) := by
  rw [nextElement, hs]
  split
  · simp_all
  · simp_all
  · rename_i d r' _ hd
    obtain ⟨rfl, rfl⟩ := List.cons.inj hd
    simp only [Bool.false_eq_true, if_false, if_true, hr]
    split <;> simp_all

lemma nextElement_end {first : Bool} {s r : List Char} (hs : skipSpace s = ']' :: r) :
    nextElement first s = .ok (false, r) := by
  rw [nextElement, hs]
  rfl

lemma nextElement_text (first : Bool) (bs before : List Blank) (v : Value) (t : List Char) :
    nextElement first (blanks bs ++ (comma first ++ (blanks before ++ (v.text ++ t))))
      = .ok (true, v.text ++ t) := by
  have hspace := skipSpace_text before v t
  obtain ⟨c, t', hv, -, -, hc, -⟩ := v.exists_head
  rw [hv, List.cons_append] at hspace ⊢
  cases first with
  | true => exact nextElement_first ((skipSpace_blanks bs _).trans hspace) hc
  | false => exact nextElement_comma (skipSpace_blanks_cons bs (by decide) _) hspace hc

lemma closeList_end {s r : List Char} (hs : skipSpace s = ']' :: r) : closeList s = .ok r := by
  rw [closeList, hs]
  rfl

/-- No elements may follow the last field. -/
lemma closeList_ne_ok {s t : List Char} {c : Char} (hs : skipSpace s = c :: t) (hc : c ≠ ']')
    (r : List Char) : closeList s ≠ .ok r := by
  rw [closeList, hs]
  split
  · simp
  · simp_all
  · split <;> simp
  · simp

lemma exists_skipSpace_items (first : Bool) (bs : List Blank) (i : Item Value)
    (items : List (Item Value)) (rest : List Char) :
    ∃ c t, skipSpace (blanks bs ++ (Value.itemsText first (i :: items) ++ rest)) = c :: t ∧
      c ≠ ']' := by
  rw [Value.itemsText_cons_append]
  cases first with
  | true =>
      have hspace := skipSpace_text i.before i.value
        (blanks i.after ++ (Value.itemsText false items ++ rest))
      obtain ⟨c, t, hv, -, -, hc, -⟩ := i.value.exists_head
      rw [comma_true_append, skipSpace_blanks, hspace, hv, List.cons_append]
      exact ⟨c, _, rfl, hc⟩
  | false =>
      rw [comma_false_append, skipSpace_blanks_cons bs (by decide)]
      exact ⟨',', _, rfl, by decide⟩

lemma elements_nil_text (count : Nat) (draft : σ) (items : List (Item Value)) (bs : List Blank)
    (rest : List Char) :
    Gives (k.elements count [] draft
        (blanks bs ++ (Value.itemsText (count == 0) items ++ ']' :: rest)))
      (k.Lists [] draft (items.map Item.value)) rest := by
  rw [elements]
  cases items with
  | nil =>
      have hclose := closeList_end (skipSpace_blanks_cons bs (c := ']') (by decide) rest)
      simp only [Value.itemsText, List.nil_append, hclose]
      exact gives_ok rfl fun draft' h => h
  | cons i items =>
      obtain ⟨c, t, hs, hc⟩ := exists_skipSpace_items (count == 0) bs i items (']' :: rest)
      cases hclose : closeList
        (blanks bs ++ (Value.itemsText (count == 0) (i :: items) ++ ']' :: rest)) with
      | error f => exact gives_error fun draft' h => h
      | ok r => exact absurd hclose (closeList_ne_ok hs hc r)

/-- The elements of an array are read if and only if a draft takes all of them. -/
lemma gives_elements_text (fields : List (Field σ))
    (hk : ∀ f ∈ fields, f.value.Decodes f.value.Reads) (items : List (Item Value)) (count : Nat)
    (draft : σ) (bs : List Blank) (rest : List Char) :
    Gives (k.elements count fields draft
        (blanks bs ++ (Value.itemsText (count == 0) items ++ ']' :: rest)))
      (k.Lists fields draft (items.map Item.value)) rest := by
  induction fields generalizing items count draft bs with
  | nil => exact elements_nil_text count draft items bs rest
  | cons f fields ih =>
      rw [elements]
      cases items with
      | nil =>
          have hend : nextElement (count == 0) (blanks bs ++ ']' :: rest) = .ok (false, rest) :=
            nextElement_end (skipSpace_blanks_cons bs (by decide) rest)
          simp only [Value.itemsText, List.nil_append, hend]
          by_cases hd : (k.finish? draft).isSome = true
          · rw [if_pos hd]
            exact gives_ok ⟨hd, rfl⟩ fun draft' h => h.2
          · rw [if_neg hd]
            exact gives_error fun draft' h => hd h.1
      | cons i items =>
          have hends := (ends_itemsText items rest).blanks i.after
          rw [Value.itemsText_cons_append, nextElement_text]
          dsimp only
          rcases (hk f (by simp) i.value [] _ hends).cases with
            ⟨set, hrun, hset, huniq⟩ | ⟨e, hrun, hno⟩
          · change f.value.run (i.value.text ++ _) = _ at hrun
            rw [hrun]
            intro draft' r
            have htail := ih (fun f hf => hk f (by simp [hf])) items (count + 1) (set draft) i.after
            refine (htail draft' r).trans (and_congr_left fun _ => ⟨fun h => ⟨set, hset, h⟩, ?_⟩)
            rintro ⟨set', hset', h⟩
            exact huniq set' hset' ▸ h
          · change f.value.run (i.value.text ++ _) = _ at hrun
            rw [hrun]
            refine gives_error ?_
            rintro draft' ⟨set', hset', -⟩
            exact hno set' hset'

/-! ### Either form -/

variable (k) in
/-- What a record is read from: an object or an array that makes a draft with all it needs. -/
def Means : Value → α → Prop
  | .object _ ms, a => ∃ draft, k.Fills k.empty ms draft ∧ k.finish? draft = some a
  | .list _ items, a =>
      ∃ draft, k.Lists k.fields k.empty (items.map Item.value) draft ∧ k.finish? draft = some a
  | _, _ => False

/-- A draft that is read is finished. -/
lemma gives_finish {x : Step σ} {P : σ → Prop} {rest : List Char} (h : Gives x P rest)
    (fault : σ → List Char → Fault) :
    Gives (match x with
      | .error f => (.error f : Step α)
      | .ok (draft, r) =>
          match k.finish? draft with
          | some a => .ok (a, r)
          | none => .error (fault draft r))
      (fun a => ∃ draft, P draft ∧ k.finish? draft = some a) rest := by
  rcases h.cases with ⟨draft, hx, hdraft, huniq⟩ | ⟨f, hx, hno⟩
  · rw [hx]
    dsimp only
    cases hf : k.finish? draft with
    | none =>
        refine gives_error ?_
        rintro a ⟨draft', hdraft', hf'⟩
        rw [huniq draft' hdraft', hf] at hf'
        simp at hf'
    | some b =>
        refine gives_ok ⟨draft, hdraft, hf⟩ ?_
        rintro a ⟨draft', hdraft', hf'⟩
        rw [huniq draft' hdraft', hf] at hf'
        exact (Option.some.inj hf').symm
  · rw [hx]
    refine gives_error ?_
    rintro a ⟨draft, hdraft, -⟩
    exact hno draft hdraft

/-- **Records** are read from the values that mean them. -/
theorem reader_decodes (hk : k.ReadsFields) : k.reader.Decodes k.Means := by
  intro v bs rest _
  show Gives (k.read (blanks bs ++ (v.text ++ rest))) (k.Means v) rest
  rw [read, skipSpace_text]
  cases v with
  | null => exact fun a r => ⟨fun h => by simp [Value.text] at h, fun h => h.1.elim⟩
  | boolean b =>
      exact fun a r => ⟨fun h => by cases b <;> simp [Value.text] at h, fun h => h.1.elim⟩
  | string s =>
      exact fun a r => ⟨fun h => by simp [Value.text, StringText.quoted] at h, fun h => h.1.elim⟩
  | number n =>
      obtain ⟨c, t, ht, hc⟩ := n.exists_head
      have hbrace : c ≠ '\x7b' := ne_of_number hc (by decide)
      have hbracket : c ≠ '[' := ne_of_number hc (by decide)
      have htext : (Value.number n).text ++ rest = c :: (t ++ rest) := congrArg (· ++ rest) ht
      rw [htext]
      refine fun a r => ⟨fun h => ?_, fun h => h.1.elim⟩
      split at h <;> simp_all
  | list inner items =>
      rw [Value.list_text_append]
      exact gives_finish (gives_elements_text k.fields hk items 0 k.empty inner rest) _
  | object inner ms =>
      rw [Value.object_text_append]
      exact gives_finish (gives_members_text hk ms true k.empty inner rest) _

end Record

end Keystroke.Json
