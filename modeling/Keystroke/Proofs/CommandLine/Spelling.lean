import Keystroke.CommandLine.Reading
import Mathlib.Data.List.TakeWhile
import Mathlib.Tactic.Common

/-!
How options are spelled on a command line, and what reading makes of a spelling.

* `Occurrence`: an option as it occurs once, with its value as typed;
* `Spells`: the command lines that spell a list of occurrences, each in one of its forms;
* `Reading.accept`, `Reading.acceptAll`: what occurrences do to the settings collected so far;
* `read_of_spells`: reading a spelling is accepting its occurrences in order and concluding.

Reading looks at a value only once the next option is met, so a reading and the settings it stands
for are compared after the pending option is settled (`Spells.settle_readAll`).
-/

namespace Keystroke.CommandLine

/-- An option as it occurs once on a command line. -/
inductive Occurrence where
  | value (o : ValueOption) (v : String)
  | flag (f : Flag)
  | query (q : Query)
  deriving DecidableEq

namespace Occurrence

/-- The option that occurs. -/
def option : Occurrence → OptionName
  | value o _ => .value o
  | flag f => .flag f
  | query q => .query q

/-- Whether the option stands alone, without a value. -/
def IsPlain : Occurrence → Prop
  | value _ _ => False
  | flag _ => True
  | query _ => True

end Occurrence

/-- An argument that can be the value of the option before it: a hyphen begins it only if it is all
there is. -/
def IsOperand (v : String) : Prop :=
  v = "-" ∨ v.toList.head? ≠ some '-'

/-- The command lines that spell a list of occurrences. -/
inductive Spells : List String → List Occurrence → Prop where
  | nil : Spells [] []
  /-- An option that stands alone, by its long name. -/
  | long {u us args} (hu : u.IsPlain) (h : Spells args us) :
      Spells (("--" ++ u.option.long) :: args) (u :: us)
  /-- A value after an equals sign. -/
  | longEquals {us args} (o : ValueOption) (v : String) (h : Spells args us) :
      Spells (("--" ++ (OptionName.value o).long ++ "=" ++ v) :: args) (.value o v :: us)
  /-- A value in the next argument. -/
  | longApart {us args} (o : ValueOption) {v : String} (hv : IsOperand v) (h : Spells args us) :
      Spells (("--" ++ (OptionName.value o).long) :: v :: args) (.value o v :: us)
  /-- An option that stands alone, by its letter. -/
  | short {u us args c} (hu : u.IsPlain) (hc : u.option.short? = some c) (h : Spells args us) :
      Spells (("-" ++ String.singleton c) :: args) (u :: us)
  /-- A value after a letter and an equals sign. -/
  | shortEquals {us args o c} (hc : (OptionName.value o).short? = some c) (v : String)
      (h : Spells args us) :
      Spells (("-" ++ String.singleton c ++ "=" ++ v) :: args) (.value o v :: us)
  /-- A value right after a letter. -/
  | shortAttached {us args o c v} (hc : (OptionName.value o).short? = some c) (hv : v ≠ "")
      (heq : v.toList.head? ≠ some '=') (h : Spells args us) :
      Spells (("-" ++ String.singleton c ++ v) :: args) (.value o v :: us)
  /-- A letter and its value in the next argument. -/
  | shortApart {us args o c v} (hc : (OptionName.value o).short? = some c) (hv : IsOperand v)
      (h : Spells args us) :
      Spells (("-" ++ String.singleton c) :: v :: args) (.value o v :: us)
  /-- The letter of an option that stands alone, in front of the letters of those that follow. -/
  | cluster {u us args c d s} (hu : u.IsPlain) (hc : u.option.short? = some c) (hd : d ≠ '-')
      (h : Spells (("-" ++ String.singleton d ++ s) :: args) us) :
      Spells (("-" ++ String.singleton c ++ String.singleton d ++ s) :: args) (u :: us)

/-! ### Steps of reading -/

namespace Reading

variable {r r' : Reading}

lemma step_long (hr : r.ended = false) {s : String} (hs : s.toList ≠ []) :
    r.step ("--" ++ s) = r.long s.toList := by
  cases h : s.toList with
  | nil => exact absurd h hs
  | cons c rest => simp [step, hr, h]

lemma step_cluster (hr : r.ended = false) {c : Char} (hc : c ≠ '-') (s : String) :
    r.step ("-" ++ String.singleton c ++ s) = r.cluster (c :: s.toList) := by
  simp [step, hr, hc]

lemma step_operand (hr : r.ended = false) {v : String} (hv : IsOperand v) :
    r.step v = r.operand v := by
  simp only [step, hr, Bool.false_eq_true, ↓reduceIte]
  rcases hv with rfl | hv
  · rfl
  · split <;> simp_all

/-- The long names hold no equals sign. -/
lemma equals_notMem_long (o : OptionName) : '=' ∉ o.long.toList := by
  rcases o with (_ | _ | _ | _ | _ | _) | (_ | _ | _) | (_ | _) <;> decide

lemma splitValue_of_notMem {s : List Char} (hs : '=' ∉ s) :
    splitValue s = (String.ofList s, none) := by
  have hdrop : s.dropWhile (· ≠ '=') = [] := by
    refine List.dropWhile_eq_nil_iff.mpr fun c hc => ?_
    simpa using fun h : c = '=' => hs (h ▸ hc)
  rw [splitValue, hdrop]

lemma splitValue_append {s : List Char} (hs : '=' ∉ s) (v : List Char) :
    splitValue (s ++ '=' :: v) = (String.ofList s, some (String.ofList v)) := by
  have hne : ∀ c ∈ s, decide (c ≠ '=') = true := fun c hc => by
    simpa using fun h : c = '=' => hs (h ▸ hc)
  rw [splitValue, List.dropWhile_append_of_pos hne, List.takeWhile_append_of_pos hne]
  simp

lemma long_plain (o : OptionName) : r.long o.long.toList = r.takeOption o := by
  simp [long, splitValue_of_notMem (equals_notMem_long o), OptionName.ofLong?_long]

lemma long_equals (o : ValueOption) (v : List Char) :
    r.long ((OptionName.value o).long.toList ++ '=' :: v) = r.takeAttached o (.ofList v) := by
  simp [long, splitValue_append (equals_notMem_long _), OptionName.ofLong?_long]

lemma long_ne_nil (o : OptionName) : o.long.toList ≠ [] := by
  rcases o with (_ | _ | _ | _ | _ | _) | (_ | _ | _) | (_ | _) <;> decide

/-- Letters tell options apart, and no letter is a hyphen. -/
lemma ofShort?_of_short? {o : OptionName} {c : Char} (h : o.short? = some c) :
    OptionName.ofShort? c = some o ∧ c ≠ '-' := by
  rcases o with (_ | _ | _ | _ | _ | _) | (_ | _ | _) | (_ | _) <;>
    first
    | (obtain rfl := Option.some.inj h; decide)
    | simp [OptionName.short?] at h

lemma cluster_plain {u : Occurrence} {c : Char} (hu : u.IsPlain) (hc : u.option.short? = some c)
    (s : List Char) : r.cluster (c :: s) = r.takeOption u.option >>= (·.cluster s) := by
  have ho := (ofShort?_of_short? hc).1
  cases u with
  | value o v => exact hu.elim
  | flag f =>
      conv_lhs => rw [cluster.eq_def]
      simp only [ho, Occurrence.option]
      cases r.takeOption (.flag f) <;> rfl
  | query q =>
      conv_lhs => rw [cluster.eq_def]
      simp only [ho, Occurrence.option]
      cases r.takeOption (.query q) <;> rfl

lemma cluster_equals {o : ValueOption} {c : Char} (hc : (OptionName.value o).short? = some c)
    (v : List Char) : r.cluster (c :: '=' :: v) = r.takeAttached o (.ofList v) := by
  simp [cluster, (ofShort?_of_short? hc).1]

lemma cluster_attached {o : ValueOption} {c : Char} (hc : (OptionName.value o).short? = some c)
    {v : List Char} (hv : v ≠ []) (heq : v.head? ≠ some '=') :
    r.cluster (c :: v) = r.takeAttached o (.ofList v) := by
  cases v with
  | nil => exact absurd rfl hv
  | cons d rest =>
      have hd : d ≠ '=' := fun h => heq (h ▸ rfl)
      rw [cluster.eq_def]
      simp [(ofShort?_of_short? hc).1]

lemma cluster_apart {o : ValueOption} {c : Char} (hc : (OptionName.value o).short? = some c) :
    r.cluster [c] = r.takeOption (.value o) := by
  simp only [cluster.eq_def r, (ofShort?_of_short? hc).1]
  cases r.takeOption (.value o) <;> rfl

/-! ### Settling and accepting -/

/-- Takes one occurrence, nothing being pending. -/
def accept (r : Reading) : Occurrence → Except Stop Reading
  | .value o v => r.takeValue o v
  | .flag f => r.take (.ofFlag f)
  | .query q => .error (.query q)

/-- Takes occurrences in order. -/
def acceptAll (r : Reading) : List Occurrence → Except Stop Reading
  | [] => .ok r
  | u :: us => r.accept u >>= (·.acceptAll us)

/-- The invocation of the settings taken, if the check at the end finds nothing. -/
def conclude (r : Reading) : Except Stop Invocation :=
  match check r.given with
  | some e => .error (.usage e)
  | none => .ok (.ofSettings r.given)

lemma settle_of_pending (h : r.pending = none) : r.settle = .ok r := by
  rw [settle, h]

lemma kept_of_take {s : Setting} (h : r.take s = .ok r') :
    r'.pending = r.pending ∧ r'.ended = r.ended := by
  rw [take] at h
  split_ifs at h
  obtain rfl := Except.ok.inj h
  exact ⟨rfl, rfl⟩

lemma kept_of_takeValue {o : ValueOption} {v : String} (h : r.takeValue o v = .ok r') :
    r'.pending = r.pending ∧ r'.ended = r.ended := by
  rw [takeValue] at h
  split_ifs at h
  split at h
  · exact kept_of_take h
  · simp at h

lemma kept_of_accept {u : Occurrence} (h : r.accept u = .ok r') :
    r'.pending = r.pending ∧ r'.ended = r.ended := by
  cases u with
  | value o v => exact kept_of_takeValue h
  | flag f => exact kept_of_take h
  | query q => simp [accept] at h

lemma settled (h : r.settle = .ok r') : r'.pending = none ∧ r'.ended = r.ended := by
  rw [settle] at h
  split at h
  · rename_i hp
    obtain rfl := Except.ok.inj h
    exact ⟨hp, rfl⟩
  · simp at h
  · exact kept_of_takeValue (r := { r with pending := none }) h

/-- A reading that `x` leads to has the occurrence settled into it, and options have not ended. -/
structure Settles (r : Reading) (u : Occurrence) (x : Except Stop Reading) : Prop where
  settle_eq : x >>= settle = r.settle >>= (·.accept u)
  ended : ∀ r', x = .ok r' → r'.ended = r.ended

lemma takeOption_eq_bind {u : Occurrence} (hu : u.IsPlain) :
    r.takeOption u.option = r.settle >>= (·.accept u) := by
  rw [takeOption]
  cases r.settle with
  | error e => rfl
  | ok r₁ => cases u with
    | value o v => exact hu.elim
    | flag f => rfl
    | query q => rfl

lemma takeAttached_eq_bind (o : ValueOption) (v : String) :
    r.takeAttached o v = r.settle >>= (·.accept (.value o v)) := by
  rw [takeAttached]
  cases r.settle <;> rfl

/-- An occurrence that is taken at once is settled. -/
lemma settles_of_eq_bind {u : Occurrence} {x : Except Stop Reading}
    (hx : x = r.settle >>= (·.accept u)) : Settles r u x := by
  subst hx
  constructor
  · cases hs : r.settle with
    | error e => rfl
    | ok r₁ =>
        simp only [bind, Except.bind]
        cases ha : r₁.accept u with
        | error e => rfl
        | ok r₂ => exact settle_of_pending ((kept_of_accept ha).1.trans (settled hs).1)
  · intro r' h
    cases hs : r.settle with
    | error e => simp [hs, bind, Except.bind] at h
    | ok r₁ =>
        rw [hs] at h
        exact (kept_of_accept h).2.trans (settled hs).2

/-- A value in an argument of its own waits for being settled. -/
lemma settles_apart (o : ValueOption) (v : String) :
    Settles r (.value o v) (r.takeOption (.value o) >>= (·.operand v)) := by
  constructor
  · rw [takeOption]
    cases hs : r.settle with
    | error e => rfl
    | ok r₁ =>
        obtain ⟨given, pending, ended⟩ := r₁
        obtain rfl : pending = none := (settled hs).1
        rfl
  · intro r' h
    rw [takeOption] at h
    cases hs : r.settle with
    | error e => simp [hs, bind, Except.bind] at h
    | ok r₁ =>
        rw [hs] at h
        exact Except.ok.inj h ▸ (settled hs).2

/-- Taking an option does not end the options, so what follows may count on that. -/
lemma takeOption_bind_congr {β : Type} (hr : r.ended = false) (o : OptionName)
    {k k' : Reading → Except Stop β} (hk : ∀ r' : Reading, r'.ended = false → k r' = k' r') :
    r.takeOption o >>= k = r.takeOption o >>= k' := by
  cases ht : r.takeOption o with
  | error e => rfl
  | ok r' =>
      refine hk r' ?_
      rw [takeOption] at ht
      cases hs : r.settle with
      | error e => simp [hs] at ht
      | ok r₁ =>
          rw [hs] at ht
          have he : r₁.ended = false := (settled hs).2.trans hr
          cases o with
          | value o => exact Except.ok.inj ht ▸ he
          | flag f => exact (kept_of_take ht).2.trans he
          | query q => simp at ht

lemma readAll_cons (a : String) (args : List String) :
    r.readAll (a :: args) = r.step a >>= (·.readAll args) := by
  rw [readAll]
  cases r.step a <;> rfl

/-- The value of an option in an argument of its own. -/
lemma takeOption_operand (hr : r.ended = false) (o : ValueOption) {v : String} (hv : IsOperand v)
    (args : List String) :
    r.takeOption (.value o) >>= (·.readAll (v :: args))
      = (r.takeOption (.value o) >>= (·.operand v)) >>= (·.readAll args) := by
  rw [bind_assoc]
  refine takeOption_bind_congr hr _ fun r' hr' => ?_
  rw [readAll_cons, step_operand hr' hv]

end Reading

open Reading

/-- One more occurrence in front of a spelling. -/
lemma settle_readAll_of_settles {r : Reading} {u : Occurrence} {us : List Occurrence}
    {args args' : List String} {x : Except Stop Reading} (hr : r.ended = false) (hx : Settles r u x)
    (hread : r.readAll args' = x >>= (·.readAll args))
    (ih : ∀ r : Reading, r.ended = false →
      (r.readAll args >>= settle) = r.settle >>= (·.acceptAll us)) :
    (r.readAll args' >>= settle) = r.settle >>= (·.acceptAll (u :: us)) := by
  have hacc : r.settle >>= (·.acceptAll (u :: us))
      = (r.settle >>= (·.accept u)) >>= (·.acceptAll us) := by
    cases r.settle <;> rfl
  rw [hacc, ← hx.settle_eq, hread]
  cases hxr : x with
  | error e => rfl
  | ok r' => exact ih r' ((hx.ended r' hxr).trans hr)

/-- **Reading a spelling**: however its occurrences are spelled, what is read and settled is what
was settled before, with the occurrences accepted in order. -/
lemma Spells.settle_readAll {args : List String} {us : List Occurrence} (h : Spells args us) :
    ∀ r : Reading, r.ended = false →
      (r.readAll args >>= settle) = r.settle >>= (·.acceptAll us) := by
  induction h with
  | nil =>
      intro r hr
      simp only [readAll, bind, Except.bind]
      cases r.settle <;> rfl
  | @long u us args hu h ih =>
      intro r hr
      refine settle_readAll_of_settles hr (settles_of_eq_bind (takeOption_eq_bind hu)) ?_ ih
      rw [readAll_cons, step_long hr (long_ne_nil _), long_plain]
  | @longEquals us args o v h ih =>
      intro r hr
      refine settle_readAll_of_settles hr (settles_of_eq_bind (takeAttached_eq_bind o v)) ?_ ih
      rw [readAll_cons, String.append_assoc, String.append_assoc, step_long hr (by simp)]
      simp [long_equals]
  | @longApart us args o v hv h ih =>
      intro r hr
      refine settle_readAll_of_settles hr (settles_apart o v) ?_ ih
      rw [readAll_cons, step_long hr (long_ne_nil _), long_plain, takeOption_operand hr o hv]
  | @short u us args c hu hc h ih =>
      intro r hr
      refine settle_readAll_of_settles hr (settles_of_eq_bind (takeOption_eq_bind hu)) ?_ ih
      have hstep := step_cluster hr (ofShort?_of_short? hc).2 ""
      rw [String.append_empty] at hstep
      rw [readAll_cons, hstep, String.toList_empty, cluster_plain hu hc]
      cases r.takeOption u.option <;> rfl
  | @shortEquals us args o c hc v h ih =>
      intro r hr
      refine settle_readAll_of_settles hr (settles_of_eq_bind (takeAttached_eq_bind o v)) ?_ ih
      rw [readAll_cons, String.append_assoc, step_cluster hr (ofShort?_of_short? hc).2]
      simp [cluster_equals hc]
  | @shortAttached us args o c v hc hv heq h ih =>
      intro r hr
      refine settle_readAll_of_settles hr (settles_of_eq_bind (takeAttached_eq_bind o v)) ?_ ih
      rw [readAll_cons, step_cluster hr (ofShort?_of_short? hc).2,
        cluster_attached hc (by simpa using hv) heq, String.ofList_toList]
  | @shortApart us args o c v hc hv h ih =>
      intro r hr
      refine settle_readAll_of_settles hr (settles_apart o v) ?_ ih
      have hstep := step_cluster hr (ofShort?_of_short? hc).2 ""
      rw [String.append_empty] at hstep
      rw [readAll_cons, hstep, String.toList_empty, cluster_apart hc, takeOption_operand hr o hv]
  | @cluster u us args c d s hu hc hd h ih =>
      intro r hr
      refine settle_readAll_of_settles hr (settles_of_eq_bind (takeOption_eq_bind hu)) ?_ ih
      rw [readAll_cons, String.append_assoc, step_cluster hr (ofShort?_of_short? hc).2,
        cluster_plain hu hc, bind_assoc]
      refine takeOption_bind_congr hr _ fun r' hr' => ?_
      rw [readAll_cons, step_cluster hr' hd]
      simp

/-- Reading is settling what the arguments lead to and then concluding. -/
lemma read_eq_bind (args : List String) :
    read args = (readAll {} args >>= settle) >>= conclude := by
  rw [read]
  cases readAll {} args with
  | error stop => rfl
  | ok r =>
      simp only [finish, bind, Except.bind]
      cases r.settle <;> rfl

/-- Reading a spelling is accepting its occurrences in order and concluding. -/
lemma read_of_spells {args : List String} {us : List Occurrence} (h : Spells args us) :
    read args = acceptAll {} us >>= conclude := by
  rw [read_eq_bind, h.settle_readAll {} rfl]
  rfl

end Keystroke.CommandLine
