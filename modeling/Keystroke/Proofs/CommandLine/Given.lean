import Keystroke.CommandLine.Reading
import Mathlib.Data.List.Nodup
import Mathlib.Tactic.Common

/-!
Settings that were taken, and the invocation they make up.

* `Distinct`: no option was given twice;
* `Extends`: reading has moved on, which loses nothing that was given and gives no option again.
  Every argument that is read does so (`Extends.step`), and so do all of them (`Extends.readAll`);
* `exists_settings_of_read`: an invocation that was read is made of distinct settings that passed
  the check at the end of the arguments;
* `OwnedBy.eq_of_mem`, `OwnedBy.eq_of_notMem`: a field of the invocation is decided by the one
  setting of its option, and has its default without one.  `key_eq_some_iff` and the like read this
  off field by field.
-/

namespace Keystroke.CommandLine

/-- No option was given twice. -/
def Distinct (given : List Setting) : Prop :=
  (given.map Setting.option).Nodup

section Run

variable {r r' : Reading}

lemma has_eq_false_iff {o : OptionName} :
    r.has o = false ↔ o ∉ r.given.map Setting.option := by
  simp [Reading.has]

lemma take_eq_ok_iff {s : Setting} :
    r.take s = .ok r' ↔
      s.option ∉ r.given.map Setting.option ∧ r' = { r with given := r.given ++ [s] } := by
  rw [Reading.take, ← has_eq_false_iff]
  cases r.has s.option <;> simp [eq_comm]

/-- Taking a value is taking the setting made from it. -/
lemma exists_setting_of_takeValue {o : ValueOption} {value : String}
    (h : r.takeValue o value = .ok r') :
    ∃ s, Setting.ofValue o value = .ok s ∧ r.take s = .ok r' := by
  rw [Reading.takeValue] at h
  split_ifs at h
  split at h
  · rename_i s hs
    exact ⟨s, hs, h⟩
  · simp at h

/-- Arguments that are read are read one after another. -/
lemma exists_of_readAll_cons {a : String} {args : List String}
    (h : r.readAll (a :: args) = .ok r') :
    ∃ r₁, r.step a = .ok r₁ ∧ r₁.readAll args = .ok r' := by
  rw [Reading.readAll] at h
  split at h
  · cases h
  · rename_i r₁ hs
    exact ⟨r₁, hs, h⟩

lemma exists_of_readAll_append {args more : List String}
    (h : r.readAll (args ++ more) = .ok r') :
    ∃ r₁, r.readAll args = .ok r₁ ∧ r₁.readAll more = .ok r' := by
  rw [Reading.readAll_append] at h
  split at h
  · cases h
  · rename_i r₁ hs
    exact ⟨r₁, hs, h⟩

/-- A setting is taken only if its option was not given before. -/
lemma Distinct.take {s : Setting} (hr : Distinct r.given) (h : r.take s = .ok r') :
    Distinct r'.given := by
  obtain ⟨hs, rfl⟩ := take_eq_ok_iff.mp h
  simp only [Distinct, List.map_append, List.map_cons, List.map_nil]
  refine List.nodup_append.mpr ⟨hr, List.nodup_singleton _, ?_⟩
  intro o ho p hp hop
  rw [List.mem_singleton.mp hp] at hop
  exact hs (hop ▸ ho)

/-! ### How reading moves on -/

/-- Reading has moved on: what was given stays, in front of what more is given, and no option is
given again. -/
structure Extends (r r' : Reading) : Prop where
  kept : r.given <+: r'.given
  distinct : Distinct r.given → Distinct r'.given

namespace Extends

lemma of_given_eq (h : r'.given = r.given) : Extends r r' :=
  ⟨h ▸ List.prefix_rfl, fun hr => h ▸ hr⟩

lemma trans {r'' : Reading} (h : Extends r r') (h' : Extends r' r'') : Extends r r'' :=
  ⟨h.kept.trans h'.kept, fun hr => h'.distinct (h.distinct hr)⟩

lemma take {s : Setting} (h : r.take s = .ok r') : Extends r r' := by
  refine ⟨?_, fun hr => hr.take h⟩
  obtain ⟨-, rfl⟩ := take_eq_ok_iff.mp h
  exact List.prefix_append _ _

lemma takeValue {o : ValueOption} {value : String} (h : r.takeValue o value = .ok r') :
    Extends r r' := by
  obtain ⟨s, -, hs⟩ := exists_setting_of_takeValue h
  exact take hs

lemma settle (h : r.settle = .ok r') : Extends r r' := by
  rw [Reading.settle] at h
  split at h
  · exact of_given_eq (Except.ok.inj h ▸ rfl)
  · simp at h
  · have hp : Extends r { r with pending := none } := of_given_eq rfl
    exact hp.trans (takeValue h)

lemma takeOption {o : OptionName} (h : r.takeOption o = .ok r') : Extends r r' := by
  rw [Reading.takeOption] at h
  split at h
  · simp at h
  · rename_i r₁ hs
    refine (settle hs).trans ?_
    cases o with
    | value o => exact of_given_eq (Except.ok.inj h ▸ rfl)
    | flag f => exact take h
    | query q => simp at h

lemma takeAttached {o : ValueOption} {value : String} (h : r.takeAttached o value = .ok r') :
    Extends r r' := by
  rw [Reading.takeAttached] at h
  split at h
  · simp at h
  · rename_i hs
    exact (settle hs).trans (takeValue h)

lemma long {s : List Char} (h : r.long s = .ok r') : Extends r r' := by
  rw [Reading.long] at h
  split at h
  split at h
  · simp at h
  · exact takeOption h
  · exact takeAttached h
  · simp at h

lemma cluster {s : List Char} (h : r.cluster s = .ok r') : Extends r r' := by
  -- only an option without a value leaves letters of the cluster to be read
  fun_induction Reading.cluster r s with
  | case1 r => exact of_given_eq (Except.ok.inj h ▸ rfl)
  | case2 => simp at h
  | case3 => exact takeAttached h
  | case4 => exact takeAttached h
  | case5 => simp at h
  | case6 r c rest o _ _ _ r₁ ho ih => exact (takeOption ho).trans (ih h)

lemma operand {argument : String} (h : r.operand argument = .ok r') : Extends r r' := by
  rw [Reading.operand] at h
  split at h
  · exact of_given_eq (Except.ok.inj h ▸ rfl)
  · simp at h

/-- Reading one argument moves on. -/
lemma step {argument : String} (h : r.step argument = .ok r') : Extends r r' := by
  rw [Reading.step] at h
  split_ifs at h
  split at h
  · exact of_given_eq (Except.ok.inj h ▸ rfl)
  · exact long h
  · exact cluster h
  · exact operand h

/-- Reading moves on however many arguments are read. -/
lemma readAll {args : List String} (h : r.readAll args = .ok r') : Extends r r' := by
  induction args generalizing r with
  | nil => exact of_given_eq (Except.ok.inj h ▸ rfl)
  | cons a rest ih =>
      obtain ⟨r₁, hs, h⟩ := exists_of_readAll_cons h
      exact (step hs).trans (ih h)

end Extends

end Run

/-- An invocation that was read is made of the settings given once all arguments are read and the
last option is settled. -/
lemma exists_readings_of_read {args : List String} {i : Invocation} (h : read args = .ok i) :
    ∃ r r', Reading.readAll {} args = .ok r ∧ r.settle = .ok r' ∧
      Reading.check r'.given = none ∧ i = .ofSettings r'.given := by
  rw [read] at h
  split at h
  · simp at h
  · rename_i r hr
    rw [Reading.finish] at h
    split at h
    · simp at h
    · rename_i r' hs
      split at h
      · simp at h
      · rename_i hc
        exact ⟨r, r', hr, hs, hc, (Except.ok.inj h).symm⟩

/-- An invocation that was read is made of distinct settings that passed the check. -/
lemma exists_settings_of_read {args : List String} {i : Invocation} (h : read args = .ok i) :
    ∃ given, Distinct given ∧ Reading.check given = none ∧ i = .ofSettings given := by
  obtain ⟨r, r', hr, hs, hc, hi⟩ := exists_readings_of_read h
  exact ⟨r'.given, ((Extends.readAll hr).trans (.settle hs)).distinct List.nodup_nil, hc, hi⟩

/-- What was given after the first arguments is among the settings of the invocation. -/
lemma exists_settings_of_read_append {before after : List String} {i : Invocation}
    (h : read (before ++ after) = .ok i) :
    ∃ r given, Reading.readAll {} before = .ok r ∧ r.given <+: given ∧ Distinct given ∧
      i = .ofSettings given := by
  obtain ⟨r, r', hr, hs, -, hi⟩ := exists_readings_of_read h
  have hd := ((Extends.readAll hr).trans (.settle hs)).distinct List.nodup_nil
  obtain ⟨r₁, hr₁, hr⟩ := exists_of_readAll_append hr
  exact ⟨r₁, r'.given, hr₁, ((Extends.readAll hr).trans (.settle hs)).kept, hd, hi⟩

/-! ### The check at the end -/

/-- No conflict is found exactly if no two of the options conflict. -/
lemma conflict?_eq_none_iff {options : List OptionName} :
    Reading.conflict? options = none ↔ ∀ o ∈ options, ∀ p ∈ options, ¬ o.conflictsWith p := by
  simp [Reading.conflict?, Reading.conflictsOf]

/-- Nothing is missing exactly if there is a key or a whole request. -/
lemma missing?_eq_none_iff {options : List OptionName} :
    Reading.missing? options = none ↔
      .value .key ∈ options ∨ .value .request ∈ options := by
  rw [or_iff_not_imp_left]
  simp [Reading.missing?]

lemma check_eq_none_iff {given : List Setting} :
    Reading.check given = none ↔
      (∀ o ∈ given.map Setting.option, ∀ p ∈ given.map Setting.option, ¬ o.conflictsWith p) ∧
        (.value .key ∈ given.map Setting.option ∨ .value .request ∈ given.map Setting.option) := by
  rw [← conflict?_eq_none_iff, ← missing?_eq_none_iff, Reading.check]
  cases Reading.conflict? (given.map Setting.option) <;> simp

/-! ### Fields of an invocation -/

section Fields

variable {β : Type} {f : Invocation → β} {o : OptionName} {given : List Setting}

/-- A field that only settings of `o` touch. -/
def OwnedBy (f : Invocation → β) (o : OptionName) : Prop :=
  ∀ i s, s.option ≠ o → f (i.set s) = f i

namespace OwnedBy

lemma foldl_eq (hf : OwnedBy f o) (h : o ∉ given.map Setting.option) (i : Invocation) :
    f (given.foldl Invocation.set i) = f i := by
  induction given generalizing i with
  | nil => rfl
  | cons s rest ih =>
      rw [List.map_cons, List.mem_cons, not_or] at h
      rw [List.foldl_cons, ih h.2, hf i s (Ne.symm h.1)]

/-- Without a setting of its option a field has its default. -/
lemma eq_of_notMem (hf : OwnedBy f o) (h : o ∉ given.map Setting.option) :
    f (.ofSettings given) = f {} :=
  hf.foldl_eq h {}

/-- The one setting of its option decides a field. -/
lemma eq_of_mem (hf : OwnedBy f o) (hd : Distinct given) {s : Setting} (hs : s ∈ given)
    (ho : s.option = o) : ∃ i : Invocation, f (.ofSettings given) = f (i.set s) := by
  obtain ⟨before, after, rfl⟩ := List.append_of_mem hs
  refine ⟨before.foldl Invocation.set {}, ?_⟩
  simp only [Distinct, List.map_append, List.map_cons] at hd
  rw [Invocation.ofSettings, List.foldl_append, List.foldl_cons, hf.foldl_eq]
  exact ho ▸ (List.nodup_cons.mp (List.nodup_append.mp hd).2.1).1

/-- A flag is set exactly if it was given. -/
lemma eq_true_iff {f : Invocation → Bool} {s : Setting} (hf : OwnedBy f s.option)
    (hd : Distinct given) (hs : ∀ t, t.option = s.option → t = s)
    (hset : ∀ i : Invocation, f (i.set s) = true) (hdef : f {} = false) :
    f (.ofSettings given) = true ↔ s ∈ given := by
  constructor
  · intro h
    by_contra hmem
    have hnot : s.option ∉ given.map Setting.option := by
      intro ho
      obtain ⟨t, ht, hts⟩ := List.mem_map.mp ho
      exact hmem (hs t hts ▸ ht)
    rw [hf.eq_of_notMem hnot, hdef] at h
    exact absurd h (by simp)
  · intro h
    obtain ⟨i, hi⟩ := hf.eq_of_mem hd h rfl
    rw [hi, hset]

/-- A field that holds the value of an option holds the one that was given. -/
lemma eq_some_iff {γ : Type} {f : Invocation → Option γ} {m : γ → Setting} (hf : OwnedBy f o)
    (hd : Distinct given) (hm : ∀ c, (m c).option = o) (hex : ∀ s, s.option = o → ∃ c, s = m c)
    (hset : ∀ (i : Invocation) c, f (i.set (m c)) = some c) (hdef : f {} = none) {c : γ} :
    f (.ofSettings given) = some c ↔ m c ∈ given := by
  constructor
  · intro h
    by_cases ho : o ∈ given.map Setting.option
    · obtain ⟨s, hs, hso⟩ := List.mem_map.mp ho
      obtain ⟨c', rfl⟩ := hex s hso
      obtain ⟨i, hi⟩ := hf.eq_of_mem hd hs hso
      rw [hi, hset] at h
      exact Option.some.inj h ▸ hs
    · rw [hf.eq_of_notMem ho, hdef] at h
      exact absurd h (by simp)
  · intro h
    obtain ⟨i, hi⟩ := hf.eq_of_mem hd h (hm c)
    rw [hi, hset]

end OwnedBy

end Fields

lemma ownedBy_tap : OwnedBy Invocation.tap (.value .tap) := by
  intro i s hs
  cases s <;> first | rfl | exact absurd rfl hs

lemma ownedBy_source : OwnedBy Invocation.source (.value .source) := by
  intro i s hs
  cases s <;> first | rfl | exact absurd rfl hs

section Given

variable {given : List Setting} (hd : Distinct given)
include hd

lemma key_eq_some_iff {c : Code} :
    (Invocation.ofSettings given).key = some c ↔ .key c ∈ given := by
  refine OwnedBy.eq_some_iff (o := .value .key) ?_ hd (fun _ => rfl) ?_ (fun _ _ => rfl) rfl
  · intro i s hs
    cases s <;> first | rfl | exact absurd rfl hs
  · intro s hs
    cases s <;> simp_all [Setting.option]

lemma char_eq_some_iff {c : Code} :
    (Invocation.ofSettings given).char = some c ↔ .char c ∈ given := by
  refine OwnedBy.eq_some_iff (o := .value .char) ?_ hd (fun _ => rfl) ?_ (fun _ _ => rfl) rfl
  · intro i s hs
    cases s <;> first | rfl | exact absurd rfl hs
  · intro s hs
    cases s <;> simp_all [Setting.option]

lemma text_eq_some_iff {t : String} :
    (Invocation.ofSettings given).text = some t ↔ .text t ∈ given := by
  refine OwnedBy.eq_some_iff (o := .value .text) ?_ hd (fun _ => rfl) ?_ (fun _ _ => rfl) rfl
  · intro i s hs
    cases s <;> first | rfl | exact absurd rfl hs
  · intro s hs
    cases s <;> simp_all [Setting.option]

lemma request?_eq_some_iff {json : String} :
    (Invocation.ofSettings given).request? = some json ↔ .request json ∈ given := by
  refine OwnedBy.eq_some_iff (o := .value .request) ?_ hd (fun _ => rfl) ?_ (fun _ _ => rfl) rfl
  · intro i s hs
    cases s <;> first | rfl | exact absurd rfl hs
  · intro s hs
    cases s <;> simp_all [Setting.option]

lemma down_eq_true_iff : (Invocation.ofSettings given).down = true ↔ .down ∈ given := by
  refine OwnedBy.eq_true_iff ?_ hd ?_ (fun _ => rfl) rfl
  · intro i s hs
    cases s <;> first | rfl | exact absurd rfl hs
  · intro s hs
    cases s <;> simp_all [Setting.option]

lemma up_eq_true_iff : (Invocation.ofSettings given).up = true ↔ .up ∈ given := by
  refine OwnedBy.eq_true_iff ?_ hd ?_ (fun _ => rfl) rfl
  · intro i s hs
    cases s <;> first | rfl | exact absurd rfl hs
  · intro s hs
    cases s <;> simp_all [Setting.option]

lemma verbose_eq_true_iff : (Invocation.ofSettings given).verbose = true ↔ .verbose ∈ given := by
  refine OwnedBy.eq_true_iff ?_ hd ?_ (fun _ => rfl) rfl
  · intro i s hs
    cases s <;> first | rfl | exact absurd rfl hs
  · intro s hs
    cases s <;> simp_all [Setting.option]

lemma tap_eq_of_mem {t : Tap} (h : .tap t ∈ given) :
    (Invocation.ofSettings given).tap = t := by
  obtain ⟨i, hi⟩ := ownedBy_tap.eq_of_mem hd h rfl
  exact hi

lemma source_eq_of_mem {s : Source} (h : .source s ∈ given) :
    (Invocation.ofSettings given).source = s := by
  obtain ⟨i, hi⟩ := ownedBy_source.eq_of_mem hd h rfl
  exact hi

end Given

end Keystroke.CommandLine
