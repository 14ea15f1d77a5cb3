import Keystroke.Proofs.CommandLine.Given
import Keystroke.Proofs.CommandLine.Spelling

/-!
No option is swallowed as the value of another one.

* `Bare`: the arguments that are a value option and nothing else;
* `Reading.step_cases`: all that one argument may do;
* `Reading.Awaits`: an option waits for its value, and only an argument that can be one may follow;
* `read_ne_ok_of_bare`: a bare option in front of an argument that looks like an option is refused;
* `Lettered`, `Carries`: the arguments that hold the value of an option themselves;
* `Reading.Holds`, `Brings`: the settings that a reading has or waits with, and those that an
  argument brings in;
* `Reading.holds_of_step`, `Reading.holds_of_readAll`: nothing else comes into a reading, argument
  by argument;
* `unswallowed`: both sides, of what is refused and of what was read.
-/

namespace Keystroke.CommandLine

/-! ### A bare option -/

/-- The arguments that are an option with a value, without the value. -/
inductive Bare (o : ValueOption) : String → Prop where
  | long : Bare o ("--" ++ (OptionName.value o).long)
  | short {c} (hc : (OptionName.value o).short? = some c) : Bare o ("-" ++ String.singleton c)

/-- An argument that looks like an option has a hyphen in front of something else. -/
lemma exists_of_not_isOperand {x : String} (hx : ¬ IsOperand x) :
    ∃ c rest, x.toList = '-' :: c :: rest := by
  obtain ⟨hne, hhead⟩ := not_or.mp hx
  rw [not_not] at hhead
  rcases hcs : x.toList with _ | ⟨c, rest⟩
  · simp [hcs] at hhead
  · obtain rfl : c = '-' := by simpa [hcs] using hhead
    cases rest with
    | nil => exact absurd (String.toList_inj.mp hcs) hne
    | cons d rest => exact ⟨d, rest, rfl⟩

namespace Reading

variable {r r' : Reading} {o : ValueOption}

/-- All that one argument may do, as long as options have not ended. -/
lemma step_cases {a : String} (h : r.step a = .ok r') :
    r.ended = false ∧
      (IsOperand a ∧ r.operand a = .ok r' ∨
        a = "--" ∧ r' = { r with ended := true } ∨
        (∃ cs, a = "--" ++ String.ofList cs ∧ r.long cs = .ok r') ∨
        ∃ c cs, a = "-" ++ String.ofList (c :: cs) ∧ r.cluster (c :: cs) = .ok r') := by
  rw [step] at h
  split_ifs at h with hended
  refine ⟨Bool.eq_false_iff.mpr hended, ?_⟩
  split at h
  · rename_i ha
    exact .inr (.inl ⟨String.toList_inj.mp ha, (Except.ok.inj h).symm⟩)
  · rename_i cs _ ha
    exact .inr (.inr (.inl ⟨cs, String.toList_inj.mp (by simp [ha]), h⟩))
  · rename_i c cs _ _ ha
    exact .inr (.inr (.inr ⟨c, cs, String.toList_inj.mp (by simp [ha]), h⟩))
  · rename_i hne
    refine .inl ⟨?_, h⟩
    by_contra hoperand
    obtain ⟨c, rest, ha⟩ := exists_of_not_isOperand hoperand
    exact hne c rest ha

/-- An option waits for its value. -/
def Awaits (r : Reading) (o : ValueOption) : Prop :=
  r.pending = some ⟨o, none⟩

lemma Awaits.settle_eq (h : r.Awaits o) : r.settle = .error (.usage (.valueMissing o)) := by
  rw [settle, h]

lemma awaits_of_takeOption (hr : r.ended = false) (h : r.takeOption (.value o) = .ok r') :
    r'.Awaits o ∧ r'.ended = false := by
  rw [takeOption] at h
  split at h
  · cases h
  · rename_i r₁ hs
    obtain rfl := Except.ok.inj h
    exact ⟨rfl, (settled hs).2.trans hr⟩

/-- A bare option waits for its value once it is read. -/
lemma awaits_of_bare {token : String} (ht : Bare o token) (h : r.step token = .ok r') :
    r'.Awaits o ∧ r'.ended = false := by
  have hr := (step_cases h).1
  refine awaits_of_takeOption hr ?_
  cases ht with
  | long => rwa [step_long hr (long_ne_nil _), long_plain] at h
  | short hc =>
      rw [← String.append_empty (s := "-" ++ String.singleton _),
        step_cluster hr (ofShort?_of_short? hc).2, String.toList_empty, cluster_apart hc] at h
      exact h

/-- While an option waits for its value, nothing is taken that looks like an option. -/
lemma Awaits.long_ne_ok (h : r.Awaits o) (s : List Char) : r.long s ≠ .ok r' := by
  rw [long]
  split
  split
  · simp
  · simp [takeOption, h.settle_eq]
  · simp [takeAttached, h.settle_eq]
  · simp

lemma Awaits.cluster_ne_ok (h : r.Awaits o) (c : Char) (s : List Char) :
    r.cluster (c :: s) ≠ .ok r' := by
  rw [cluster.eq_def]
  dsimp only
  split
  · simp
  · simp [takeAttached, h.settle_eq]
  · simp [takeAttached, h.settle_eq]
  · simp [takeOption, h.settle_eq]

/-- Of the arguments that look like an option only the two hyphens may follow. -/
lemma Awaits.of_step (h : r.Awaits o) {x : String} (hx : ¬ IsOperand x)
    (hs : r.step x = .ok r') : r'.Awaits o ∧ r'.ended = true := by
  obtain ⟨-, ⟨ha, -⟩ | ⟨-, rfl⟩ | ⟨cs, -, hlong⟩ | ⟨c, cs, -, hcluster⟩⟩ := step_cases hs
  · exact absurd ha hx
  · exact ⟨h, rfl⟩
  · exact absurd hlong (h.long_ne_ok cs)
  · exact absurd hcluster (h.cluster_ne_ok c cs)

/-- Once options have ended no argument is taken. -/
lemma eq_of_readAll_of_ended (hr : r.ended = true) {args : List String}
    (h : r.readAll args = .ok r') : r' = r := by
  cases args with
  | nil => exact (Except.ok.inj h).symm
  | cons a args => simp [readAll, step, hr] at h

end Reading

/-- A bare option in front of an argument that looks like an option is refused. -/
lemma read_ne_ok_of_bare {p q : List String} {o : ValueOption} {token x : String}
    (ht : Bare o token) (hx : ¬ IsOperand x) (i : Invocation) :
    read (p ++ token :: x :: q) ≠ .ok i := by
  intro h
  obtain ⟨r, r', hr, hs, -, -⟩ := exists_readings_of_read h
  obtain ⟨r₀, -, hr⟩ := exists_of_readAll_append hr
  obtain ⟨r₁, htoken, hr⟩ := exists_of_readAll_cons hr
  obtain ⟨r₂, hstep, hr⟩ := exists_of_readAll_cons hr
  -- the option still waits at the end, whose arguments nobody takes
  obtain ⟨hawaits, hended⟩ := (Reading.awaits_of_bare ht htoken).1.of_step hx hstep
  obtain rfl := Reading.eq_of_readAll_of_ended hended hr
  rw [hawaits.settle_eq] at hs
  cases hs

/-! ### Where values come from -/

/-- The letter of an option with its value, behind an equals sign or not. -/
inductive Lettered (o : ValueOption) (v : String) : String → Prop where
  | equals {c} (hc : (OptionName.value o).short? = some c) :
      Lettered o v (String.singleton c ++ "=" ++ v)
  | attached {c} (hc : (OptionName.value o).short? = some c) (hv : v ≠ "")
      (heq : v.toList.head? ≠ some '=') : Lettered o v (String.singleton c ++ v)

/-- The arguments that hold an option together with its value.  The letter of the one flag that has
one may stand in front of that of the option. -/
inductive Carries (o : ValueOption) (v : String) : String → Prop where
  | long : Carries o v ("--" ++ (OptionName.value o).long ++ "=" ++ v)
  | short {s} (h : Lettered o v s) : Carries o v ("-" ++ s)
  | cluster {s} (h : Lettered o v s) : Carries o v ("-v" ++ s)

/-- An argument brings in a setting, as a value of its own or together with its option. -/
def Brings (a : String) (s : Setting) : Prop :=
  ∃ o v, Setting.ofValue o v = .ok s ∧ (v = a ∧ IsOperand a ∨ Carries o v a)

namespace Reading

variable {r r' : Reading} {s : Setting}

/-- A setting was taken, or is that of an option that waits for its value to be looked at. -/
def Holds (r : Reading) (s : Setting) : Prop :=
  s ∈ r.given ∨ ∃ o v, r.pending = some ⟨o, some v⟩ ∧ Setting.ofValue o v = .ok s

lemma Holds.mem (h : r.Holds s) (hp : ∀ o v, r.pending ≠ some ⟨o, some v⟩) : s ∈ r.given := by
  rcases h with h | ⟨o, v, hov, -⟩
  · exact h
  · exact absurd hov (hp o v)

lemma mem_of_take {t : Setting} (h : r.take t = .ok r') (hs : s ∈ r'.given) :
    s ∈ r.given ∨ s = t := by
  obtain ⟨-, rfl⟩ := take_eq_ok_iff.mp h
  simpa using hs

lemma mem_of_takeValue {o : ValueOption} {v : String} (h : r.takeValue o v = .ok r')
    (hs : s ∈ r'.given) : s ∈ r.given ∨ Setting.ofValue o v = .ok s := by
  obtain ⟨t, ht, htake⟩ := exists_setting_of_takeValue h
  rcases mem_of_take htake hs with hs | rfl
  · exact .inl hs
  · exact .inr ht

/-- Settling only takes what waited for it. -/
lemma holds_of_settle (h : r.settle = .ok r') (hs : s ∈ r'.given) : r.Holds s := by
  rw [settle] at h
  split at h
  · obtain rfl := Except.ok.inj h
    exact .inl hs
  · cases h
  · rename_i o v hp
    rcases mem_of_takeValue h hs with hs | hs
    · exact .inl hs
    · exact .inr ⟨o, v, hp, hs⟩

lemma holds_of_takeAttached {o : ValueOption} {v : String} (h : r.takeAttached o v = .ok r')
    (hs : r'.Holds s) : r.Holds s ∨ Setting.ofValue o v = .ok s := by
  rw [takeAttached] at h
  split at h
  · cases h
  · rename_i r₁ hsettle
    have hmem := hs.mem (by simp [(kept_of_takeValue h).1, (settled hsettle).1])
    exact (mem_of_takeValue h hmem).imp_left (holds_of_settle hsettle)

/-! ### Options as they are written -/

/-- A value is split off behind the first equals sign. -/
lemma eq_append_of_splitValue {cs : List Char} {name v : String}
    (h : splitValue cs = (name, some v)) : cs = name.toList ++ '=' :: v.toList := by
  rw [splitValue] at h
  split at h
  · simp at h
  · rename_i c rest hdrop
    obtain ⟨rfl, hv⟩ := Prod.mk.inj h
    obtain rfl := Option.some.inj hv
    have hc : c = '=' := by
      have hhead := List.head?_dropWhile_not (fun c => decide (c ≠ '=')) cs
      rw [hdrop] at hhead
      simpa using hhead
    rw [hc] at hdrop
    rw [String.toList_ofList, String.toList_ofList, ← hdrop, List.takeWhile_append_dropWhile]

lemma long_of_ofLong? {name : String} {o : OptionName} (h : OptionName.ofLong? name = some o) :
    o.long = name := by
  simpa using List.find?_some h

lemma short?_of_ofShort? {c : Char} {o : OptionName} (h : OptionName.ofShort? c = some o) :
    o.short? = some c := by
  simpa using List.find?_some h

/-- Only one flag has a letter. -/
lemma eq_verbose_of_ofShort? {c : Char} {f : Flag} (h : OptionName.ofShort? c = some (.flag f)) :
    c = 'v' ∧ f = .verbose := by
  have hc := short?_of_ofShort? h
  cases f with
  | verbose => exact ⟨(Option.some.inj hc).symm, rfl⟩
  | down | up => cases hc

/-- A flag is taken only once. -/
lemma has_of_takeOption {f : Flag} (h : r.takeOption (.flag f) = .ok r') :
    r.has (.flag f) = false ∧ r'.has (.flag f) = true := by
  rw [takeOption] at h
  split at h
  · cases h
  · rename_i r₁ hsettle
    obtain ⟨hnew, rfl⟩ := take_eq_ok_iff.mp h
    rw [Setting.option_ofFlag] at hnew
    refine ⟨has_eq_false_iff.mpr fun hmem => hnew ?_, by simp [has]⟩
    exact ((Extends.settle hsettle).kept.map _).subset hmem

/-! ### Settings with a value -/

section Valued

variable (hf : ∀ f, s ≠ .ofFlag f)
include hf

lemma holds_of_takeOption {o : OptionName} (h : r.takeOption o = .ok r')
    (hs : r'.Holds s) : r.Holds s := by
  rw [takeOption] at h
  split at h
  · cases h
  · rename_i r₁ hsettle
    cases o with
    | value o =>
        obtain rfl := Except.ok.inj h
        exact holds_of_settle hsettle (hs.mem (by simp))
    | flag f =>
        have hmem := hs.mem (by simp [(kept_of_take h).1, (settled hsettle).1])
        exact holds_of_settle hsettle ((mem_of_take h hmem).resolve_right (hf f))
    | query q => cases h

lemma holds_of_long {cs : List Char} (h : r.long cs = .ok r') (hs : r'.Holds s) :
    r.Holds s ∨
      ∃ o v, Setting.ofValue o v = .ok s ∧ Carries o v ("--" ++ String.ofList cs) := by
  rw [long] at h
  split at h
  rename_i name value hsplit
  split at h
  · cases h
  · exact .inl (holds_of_takeOption hf h hs)
  · rename_i o v hlong
    refine (holds_of_takeAttached h hs).imp_right fun hv => ⟨o, v, hv, ?_⟩
    have hcs : "--" ++ String.ofList cs = "--" ++ (OptionName.value o).long ++ "=" ++ v := by
      rw [eq_append_of_splitValue hsplit, long_of_ofLong? hlong]
      exact String.toList_inj.mp (by simp)
    exact hcs ▸ .long
  · cases h

/-- Letters bring in a value behind the letter of its option, and at most the flag stands in front
of that, since it may not be given twice. -/
lemma holds_of_cluster {cs : List Char} (h : r.cluster cs = .ok r') (hs : r'.Holds s) :
    r.Holds s ∨ ∃ o v, Setting.ofValue o v = .ok s ∧
      (Lettered o v (String.ofList cs) ∨ r.has (.flag .verbose) = false ∧
        ∃ rest, cs = 'v' :: rest ∧ Lettered o v (String.ofList rest)) := by
  fun_induction Reading.cluster r cs with
  | case1 r => exact .inl (Except.ok.inj h ▸ hs)
  | case2 => cases h
  | case3 r c o value hc =>
      refine (holds_of_takeAttached h hs).imp_right fun hv => ⟨o, _, hv, .inl ?_⟩
      have hcs : String.ofList (c :: '=' :: value) =
          String.singleton c ++ "=" ++ String.ofList value := String.toList_inj.mp (by simp)
      exact hcs ▸ .equals (short?_of_ofShort? hc)
  | case4 r c o d value hd hc =>
      refine (holds_of_takeAttached h hs).imp_right fun hv => ⟨o, _, hv, .inl ?_⟩
      have hcs : String.ofList (c :: d :: value) =
          String.singleton c ++ String.ofList (d :: value) := String.toList_inj.mp (by simp)
      exact hcs ▸ .attached (short?_of_ofShort? hc) (by simp) (by simpa using hd)
  | case5 => cases h
  | case6 r c o rest hequals hattached hc r₁ ho ih =>
      cases o with
      | value o =>
          -- nothing follows the letter, or it would be the value
          cases rest with
          | cons d rest => exact (hattached o d rest rfl rfl).elim
          | nil => exact .inl (holds_of_takeOption hf ho (Except.ok.inj h ▸ hs))
      | flag f =>
          obtain ⟨rfl, rfl⟩ := eq_verbose_of_ofShort? hc
          obtain ⟨hnew, hgiven⟩ := has_of_takeOption ho
          rcases ih h with hs | ⟨o, v, hv, hl | ⟨hno, -⟩⟩
          · exact .inl (holds_of_takeOption hf ho hs)
          · exact .inr ⟨o, v, hv, .inr ⟨hnew, rest, rfl, hl⟩⟩
          · simp [hgiven] at hno
      | query q =>
          rw [takeOption] at ho
          split at ho <;> cases ho

omit hf in
lemma holds_of_operand {a : String} (ha : IsOperand a) (h : r.operand a = .ok r')
    (hs : r'.Holds s) : r.Holds s ∨ Brings a s := by
  rw [operand] at h
  split at h
  · obtain rfl := Except.ok.inj h
    rcases hs with hs | ⟨o, v, hp, hv⟩
    · exact .inl (.inl hs)
    · obtain ⟨rfl, hva⟩ := Pending.mk.inj (Option.some.inj hp)
      exact .inr ⟨_, v, hv, .inl ⟨(Option.some.inj hva).symm, ha⟩⟩
  · cases h

/-- One argument brings in what it holds itself or what may be the value of the option before it. -/
lemma holds_of_step {a : String} (h : r.step a = .ok r') (hs : r'.Holds s) :
    r.Holds s ∨ Brings a s := by
  obtain ⟨-, ⟨ha, hoperand⟩ | ⟨-, rfl⟩ | ⟨cs, rfl, hlong⟩ | ⟨c, cs, rfl, hcluster⟩⟩ := step_cases h
  · exact holds_of_operand ha hoperand hs
  · exact .inl hs
  · rcases holds_of_long hf hlong hs with hs | ⟨o, v, hv, hc⟩
    · exact .inl hs
    · exact .inr ⟨o, v, hv, .inr hc⟩
  · rcases holds_of_cluster hf hcluster hs with hs | ⟨o, v, hv, hl | ⟨-, rest, hrest, hl⟩⟩
    · exact .inl hs
    · exact .inr ⟨o, v, hv, .inr (.short hl)⟩
    · have hletters : "-" ++ String.ofList (c :: cs) = "-v" ++ String.ofList rest :=
        String.toList_inj.mp (by simp [hrest])
      exact .inr ⟨o, v, hv, .inr (hletters ▸ .cluster hl)⟩

/-- However many arguments are read, each setting with a value is brought in by one of them. -/
lemma holds_of_readAll {args : List String} (h : r.readAll args = .ok r') (hs : r'.Holds s) :
    r.Holds s ∨ ∃ a ∈ args, Brings a s := by
  induction args generalizing r with
  | nil => exact .inl (Except.ok.inj h ▸ hs)
  | cons a args ih =>
      obtain ⟨r₁, hstep, h⟩ := exists_of_readAll_cons h
      rcases ih h with hs₁ | ⟨b, hb, hbs⟩
      · exact (holds_of_step hf hstep hs₁).imp_right fun ha => ⟨a, List.mem_cons_self, ha⟩
      · exact .inr ⟨b, List.mem_cons_of_mem a hb, hbs⟩

end Valued

end Reading

/-- A setting with a value that was read was brought in by an argument. -/
lemma exists_brings_of_read {args : List String} {i : Invocation} (h : read args = .ok i) :
    ∃ given, Distinct given ∧ i = .ofSettings given ∧
      ∀ s ∈ given, (∀ f, s ≠ .ofFlag f) → ∃ a ∈ args, Brings a s := by
  obtain ⟨r, r', hr, hs, -, hi⟩ := exists_readings_of_read h
  have hd := ((Extends.readAll hr).trans (.settle hs)).distinct List.nodup_nil
  refine ⟨r'.given, hd, hi, fun s hmem hf => ?_⟩
  rcases Reading.holds_of_readAll hf hr (Reading.holds_of_settle hs hmem) with hnone | h
  · rcases hnone with hnone | ⟨o, v, hnone, -⟩ <;> cases hnone
  · exact h

section Values

variable {v a : String} (hv : ¬ IsOperand v)
include hv

/-- A value that looks like an option is only brought in together with its own option. -/
lemma carries_of_brings {o : ValueOption} {s : Setting} (h : Brings a s)
    (hs : ∀ p w, Setting.ofValue p w = .ok s → p = o ∧ w = v) : Carries o v a := by
  obtain ⟨p, w, hw, h⟩ := h
  obtain ⟨rfl, rfl⟩ := hs p w hw
  rcases h with ⟨rfl, ha⟩ | hc
  · exact absurd ha hv
  · exact hc

lemma text_of_brings (h : Brings a (.text v)) :
    a = "--text=" ++ v ∨ a = "-t" ++ v ∨ a = "-t=" ++ v ∨ a = "-vt" ++ v ∨ a = "-vt=" ++ v := by
  have hc : Carries .text v a := carries_of_brings hv h fun p w hw => by
    have hp := Setting.option_of_ofValue hw
    obtain rfl : ValueOption.text = p := by simpa [Setting.option] using hp
    exact ⟨rfl, by simpa [Setting.ofValue] using hw⟩
  cases hc with
  | long => exact .inl rfl
  | short hl =>
      cases hl with
      | equals hc =>
          obtain rfl := Option.some.inj hc
          exact .inr (.inr (.inl (String.toList_inj.mp (by simp))))
      | attached hc =>
          obtain rfl := Option.some.inj hc
          exact .inr (.inl (String.toList_inj.mp (by simp)))
  | cluster hl =>
      cases hl with
      | equals hc =>
          obtain rfl := Option.some.inj hc
          exact .inr (.inr (.inr (.inr (String.toList_inj.mp (by simp)))))
      | attached hc =>
          obtain rfl := Option.some.inj hc
          exact .inr (.inr (.inr (.inl (String.toList_inj.mp (by simp)))))

lemma request_of_brings (h : Brings a (.request v)) : a = "--request=" ++ v := by
  have hc : Carries .request v a := carries_of_brings hv h fun p w hw => by
    have hp := Setting.option_of_ofValue hw
    obtain rfl : ValueOption.request = p := by simpa [Setting.option] using hp
    exact ⟨rfl, by simpa [Setting.ofValue] using hw⟩
  cases hc with
  | long => rfl
  -- the option has no letter
  | short hl => cases hl with | equals hc | attached hc => cases hc
  | cluster hl => cases hl with | equals hc | attached hc => cases hc

end Values

/-- **No option is swallowed**: an option that takes a value, given without one, is refused in front
of an argument that begins with a hyphen and has more to it, whatever stands before and after the
two.  So a text or a whole request of that kind was written in one argument with its option. -/
theorem unswallowed :
    (∀ (p q : List String) (o : ValueOption) (token x : String), Bare o token →
      x.toList.head? = some '-' → x ≠ "-" → ∀ i, read (p ++ token :: x :: q) ≠ .ok i) ∧
    ∀ (args : List String) (i : Invocation) (v : String), read args = .ok i →
      v.toList.head? = some '-' → v ≠ "-" →
        (i.text = some v → ∃ a ∈ args, a = "--text=" ++ v ∨ a = "-t" ++ v ∨ a = "-t=" ++ v ∨
          a = "-vt" ++ v ∨ a = "-vt=" ++ v) ∧
        (i.request? = some v → "--request=" ++ v ∈ args) := by
  have hoperand : ∀ v : String, v.toList.head? = some '-' → v ≠ "-" → ¬ IsOperand v :=
    fun v hhead hne => not_or.mpr ⟨hne, not_not.mpr hhead⟩
  refine ⟨fun p q o token x ht hhead hne i => read_ne_ok_of_bare ht (hoperand x hhead hne) i,
    fun args i v h hhead hne => ?_⟩
  obtain ⟨given, hd, rfl, hgiven⟩ := exists_brings_of_read h
  refine ⟨fun htext => ?_, fun hrequest => ?_⟩
  · obtain ⟨a, ha, hbrings⟩ := hgiven _ ((text_eq_some_iff hd).mp htext) (by rintro ⟨⟩ ⟨⟩)
    exact ⟨a, ha, text_of_brings (hoperand v hhead hne) hbrings⟩
  · obtain ⟨a, ha, hbrings⟩ := hgiven _ ((request?_eq_some_iff hd).mp hrequest) (by rintro ⟨⟩ ⟨⟩)
    exact request_of_brings (hoperand v hhead hne) hbrings ▸ ha

/-- Two hyphens behind the letter of a text are not the text, but in one argument with that letter
they are, even with the flag in front. -/
theorem unswallowed_attached :
    Bare .text "-t" ∧ (∀ i, read (["--up"] ++ "-t" :: "--" :: ["-k0"]) ≠ .ok i) ∧
      ∃ i, read ["--up", "-vt--", "-k0"] = .ok i ∧ i.text = some "--" ∧
        ∃ a ∈ ["--up", "-vt--", "-k0"], a = "--text=--" ∨ a = "-t--" ∨ a = "-t=--" ∨ a = "-vt--" ∨
          a = "-vt=--" := by
  have hletter : "-t" = "-" ++ String.singleton 't' := by decide
  have ht : Bare .text "-t" := hletter ▸ .short rfl
  have h : read ["--up", "-vt--", "-k0"] =
      .ok { key := some 0, text := some "--", up := true, verbose := true } := by decide
  exact ⟨ht, unswallowed.1 _ _ _ _ _ ht rfl (by decide), _, h, rfl,
    (unswallowed.2 _ _ "--" h rfl (by decide)).1 rfl⟩

end Keystroke.CommandLine
