import Keystroke.Proofs.CommandLine.Given
import Keystroke.Proofs.CommandLine.RequestError
import Keystroke.Proofs.Text.Utf16

/-!
What every invocation keeps that was read, and the request it names.

* `Invocation.Consistent`: a whole request stands alone, and without one there is a key; there are
  never both directions, nor both a code and a text for the character;
* `Invocation.Fails`: the request of an invocation is refused in the given words;
* `Invocation.Decided`: what the request of an invocation comes out as, case by case;
* `consistent_decided_of_read`: both hold of every invocation that was read.
-/

namespace Keystroke.CommandLine

namespace Invocation

/-- No part of a request contradicts another one. -/
structure Consistent (i : Invocation) : Prop where
  whole : i.request?.isSome →
    i.key = none ∧ i.char = none ∧ i.text = none ∧ i.down = false ∧ i.up = false
  parts : i.request? = none → i.key.isSome
  direction : ¬ (i.down = true ∧ i.up = true)
  character : ¬ (i.char.isSome ∧ i.text.isSome)

/-- Whether one of the directions was given. -/
def Directed (i : Invocation) : Prop :=
  i.down = true ∨ i.up = true

/-- The request of an invocation is refused with the given message, for the given causes. -/
def Fails (i : Invocation) (message : String) (causes : List String) : Prop :=
  ∃ e, i.request = .error e ∧ e.message = message ∧ e.causes = causes

/-- What the request of an invocation comes out as.  A whole request is what its text holds.  Of
the parts the direction is looked at before the character, and what is built of them holds just what
was given. -/
structure Decided (i : Invocation) : Prop where
  keyAsked : ∀ causes, ¬ i.Fails "--key is required" causes
  whole : ∀ json, i.request? = some json →
    (∀ r, Request.ofJson json = .ok r → i.request = .ok r) ∧
      ∀ cause, Request.ofJson json = .error cause →
        i.Fails "Invalid --request JSON" [cause.message]
  direction : i.request? = none →
    (i.Fails "one of --down or --up is required" [] ↔ i.down = false ∧ i.up = false)
  text : i.request? = none → ∀ s,
    (i.Fails ("--text must be exactly one UTF-16 code unit, got " ++ Text.quoted s) [] ↔
      i.Directed ∧ i.text = some s ∧ ∀ u, Text.utf16 s.toList ≠ [u])
  character : i.request? = none →
    (i.Fails "one of --char or --text is required" [] ↔
      i.Directed ∧ i.char = none ∧ i.text = none)
  parts : i.request? = none → ∀ r,
    (i.request = .ok r ↔
      i.key = some r.key ∧
        (i.char = some r.character ∨ ∃ s, i.text = some s ∧ Text.utf16 s.toList = [r.character]) ∧
        (r.direction = .down ∧ i.down = true ∨ r.direction = .up ∧ i.up = true))

/-! ### Consistency -/

/-- Settings that passed the check at the end of the arguments make up a consistent invocation. -/
lemma consistent_ofSettings {given : List Setting} (hd : Distinct given)
    (hc : Reading.check given = none) : (ofSettings given).Consistent := by
  obtain ⟨hconf, hneed⟩ := check_eq_none_iff.mp hc
  have apart : ∀ s ∈ given, ∀ t ∈ given, ¬ s.option.conflictsWith t.option := fun s hs t ht =>
    hconf _ (List.mem_map_of_mem hs) _ (List.mem_map_of_mem ht)
  constructor
  · intro h
    obtain ⟨json, hj⟩ := Option.isSome_iff_exists.mp h
    have hmem := (request?_eq_some_iff hd).mp hj
    have alone : ∀ s ∈ given, ¬ (OptionName.value .request).conflictsWith s.option :=
      fun s hs => apart _ hmem s hs
    refine ⟨?_, ?_, ?_, ?_, ?_⟩
    · exact Option.eq_none_iff_forall_ne_some.mpr fun c hk =>
        alone _ ((key_eq_some_iff hd).mp hk) rfl
    · exact Option.eq_none_iff_forall_ne_some.mpr fun c hk =>
        alone _ ((char_eq_some_iff hd).mp hk) rfl
    · exact Option.eq_none_iff_forall_ne_some.mpr fun t hk =>
        alone _ ((text_eq_some_iff hd).mp hk) rfl
    · exact Bool.eq_false_iff.mpr fun hk => alone _ ((down_eq_true_iff hd).mp hk) rfl
    · exact Bool.eq_false_iff.mpr fun hk => alone _ ((up_eq_true_iff hd).mp hk) rfl
  · intro h
    rcases hneed with hk | hr
    · obtain ⟨s, hs, ho⟩ := List.mem_map.mp hk
      cases s <;> simp only [Setting.option, reduceCtorEq, OptionName.value.injEq] at ho
      exact Option.isSome_iff_exists.mpr ⟨_, (key_eq_some_iff hd).mpr hs⟩
    · obtain ⟨s, hs, ho⟩ := List.mem_map.mp hr
      cases s <;> simp only [Setting.option, reduceCtorEq, OptionName.value.injEq] at ho
      rw [(request?_eq_some_iff hd).mpr hs] at h
      exact absurd h (by simp)
  · rintro ⟨hdown, hup⟩
    exact apart _ ((down_eq_true_iff hd).mp hdown) _ ((up_eq_true_iff hd).mp hup) rfl
  · rintro ⟨hchar, htext⟩
    obtain ⟨c, hc⟩ := Option.isSome_iff_exists.mp hchar
    obtain ⟨t, ht⟩ := Option.isSome_iff_exists.mp htext
    exact apart _ ((char_eq_some_iff hd).mp hc) _ ((text_eq_some_iff hd).mp ht) rfl

/-! ### The request -/

lemma textUnit_eq_ok_iff {s : String} {u : Code} :
    textUnit s = .ok u ↔ Text.utf16 s.toList = [u] := by
  rw [← Text.singleUnit?_eq_some_iff, textUnit]
  cases Text.singleUnit? s <;> simp

lemma textUnit_eq_error_iff {s : String} {e : RequestError} :
    textUnit s = .error e ↔ e = .textNotSingle s ∧ ∀ u, Text.utf16 s.toList ≠ [u] := by
  rw [← Text.singleUnit?_eq_none_iff, textUnit]
  cases Text.singleUnit? s <;> simp [eq_comm]

section Parts

variable {i : Invocation}

lemma character_eq_ok_iff (hi : i.Consistent) {c : Code} :
    i.character = .ok c ↔
      i.char = some c ∨ ∃ s, i.text = some s ∧ Text.utf16 s.toList = [c] := by
  have hct := hi.character
  cases hchar : i.char with
  | some d =>
      have htext : i.text = none := by simpa [hchar] using hct
      simp [character, hchar, htext]
  | none =>
      cases htext : i.text with
      | some s => simp [character, hchar, htext, textUnit_eq_ok_iff]
      | none => simp [character, hchar, htext]

lemma character_eq_error_iff (hi : i.Consistent) {e : RequestError} :
    i.character = .error e ↔
      (∃ s, e = .textNotSingle s ∧ i.text = some s ∧ ∀ u, Text.utf16 s.toList ≠ [u]) ∨
        e = .characterMissing ∧ i.char = none ∧ i.text = none := by
  have hct := hi.character
  cases hchar : i.char with
  | some d =>
      have htext : i.text = none := by simpa [hchar] using hct
      simp [character, hchar, htext]
  | none =>
      cases htext : i.text with
      | some s => simp [character, hchar, htext, textUnit_eq_error_iff]
      | none => simp [character, hchar, htext, eq_comm]

/-- Without a whole request the key is there, and the direction comes before the character. -/
lemma request_of_parts (hi : i.Consistent) (hw : i.request? = none) :
    ∃ key, i.key = some key ∧
      i.request =
        if !i.down && !i.up then .error .directionMissing
        else i.character.map fun character => Request.ofFlag character key i.down := by
  obtain ⟨key, hk⟩ := Option.isSome_iff_exists.mp (hi.parts hw)
  exact ⟨key, hk, by rw [request, hw, requestOfParts, hk]⟩

lemma request_of_not_directed (hi : i.Consistent) (hw : i.request? = none) (hd : ¬ i.Directed) :
    i.request = .error .directionMissing := by
  obtain ⟨key, -, hr⟩ := request_of_parts hi hw
  simp only [Directed, not_or, Bool.not_eq_true] at hd
  simp [hr, hd]

lemma request_of_directed (hi : i.Consistent) (hw : i.request? = none) (hd : i.Directed) :
    ∃ key, i.key = some key ∧
      i.request = i.character.map fun character => Request.ofFlag character key i.down := by
  obtain ⟨key, hk, hr⟩ := request_of_parts hi hw
  refine ⟨key, hk, ?_⟩
  rcases hd with hd | hd <;> simp [hr, hd]

/-- With a direction given, and never both, the flag for down tells which one. -/
lemma direction_eq_iff (hi : i.Consistent) (hd : i.Directed) {d : Direction} :
    Direction.ofFlag i.down = d ↔ d = .down ∧ i.down = true ∨ d = .up ∧ i.up = true := by
  have hboth := hi.direction
  rcases hd with hd | hd <;> cases d <;> simp_all [Direction.ofFlag]

/-- What a request is refused for when it is given by its parts. -/
lemma request_eq_error_iff (hi : i.Consistent) (hw : i.request? = none) {e : RequestError} :
    i.request = .error e ↔
      (¬ i.Directed ∧ e = .directionMissing) ∨
        i.Directed ∧
          ((∃ s, e = .textNotSingle s ∧ i.text = some s ∧ ∀ u, Text.utf16 s.toList ≠ [u]) ∨
            e = .characterMissing ∧ i.char = none ∧ i.text = none) := by
  by_cases hd : i.Directed
  · obtain ⟨key, -, hr⟩ := request_of_directed hi hw hd
    rw [← character_eq_error_iff hi, hr]
    cases i.character <;> simp [Except.map, hd]
  · rw [request_of_not_directed hi hw hd]
    simp [hd, eq_comm]

/-- What a request given by its parts is made of. -/
lemma request_eq_ok_iff (hi : i.Consistent) (hw : i.request? = none) {r : Request} :
    i.request = .ok r ↔
      i.key = some r.key ∧
        (i.char = some r.character ∨ ∃ s, i.text = some s ∧ Text.utf16 s.toList = [r.character]) ∧
        (r.direction = .down ∧ i.down = true ∨ r.direction = .up ∧ i.up = true) := by
  by_cases hd : i.Directed
  · obtain ⟨key, hk, hr⟩ := request_of_directed hi hw hd
    rw [← character_eq_ok_iff hi, hr, hk, ← direction_eq_iff hi hd]
    cases i.character with
    | error e => simp [Except.map]
    | ok c =>
        obtain ⟨character, key', direction⟩ := r
        simp only [Except.map, Except.ok.injEq, Request.ofFlag, Request.mk.injEq, Option.some_inj]
        tauto
  · rw [request_of_not_directed hi hw hd]
    simp only [Directed, not_or] at hd
    simp [hd]

end Parts

/-- A request is refused in the words of an error without causes if and only if it is refused with
that error. -/
lemma fails_iff {i : Invocation} {e : RequestError} (he : e.causes = []) :
    i.Fails e.message [] ↔ i.request = .error e := by
  constructor
  · rintro ⟨e', hr, hm, hc⟩
    rw [hr, RequestError.eq_of_message_eq hm hc he]
  · exact fun hr => ⟨e, hr, rfl, he⟩

/-- The case analysis of the request holds of every consistent invocation. -/
lemma Consistent.decided {i : Invocation} (hi : i.Consistent) : i.Decided where
  keyAsked := by
    rintro causes ⟨e, he, hm, -⟩
    obtain rfl := RequestError.eq_keyMissing_of_message_eq hm
    cases hw : i.request? with
    | some json =>
        rw [request, hw] at he
        dsimp only at he
        cases hj : Request.ofJson json with
        | error cause =>
            rw [hj] at he
            cases Except.error.inj he
        | ok r =>
            rw [hj] at he
            cases he
    | none => simp [request_eq_error_iff hi hw] at he
  whole json hj := by
    have hr : i.request = (Request.ofJson json).mapError .unreadable := by rw [request, hj]
    constructor
    · intro r h
      rw [hr, h]
      rfl
    · intro cause h
      refine ⟨.unreadable cause, ?_, rfl, rfl⟩
      rw [hr, h]
      rfl
  direction hw := by
    refine (fails_iff (e := .directionMissing) rfl).trans ?_
    rw [request_eq_error_iff hi hw]
    simp [Directed]
  text hw s := by
    refine (fails_iff (e := .textNotSingle s) rfl).trans ?_
    rw [request_eq_error_iff hi hw]
    simp
  character hw := by
    refine (fails_iff (e := .characterMissing) rfl).trans ?_
    rw [request_eq_error_iff hi hw]
    simp
  parts hw r := request_eq_ok_iff hi hw

end Invocation

/-- **Invocations that were read**: whatever the command line, the parts of an invocation do not
contradict one another, and the request it names is decided by what was given. -/
theorem consistent_decided_of_read {args : List String} {i : Invocation} (h : read args = .ok i) :
    i.Consistent ∧ i.Decided := by
  obtain ⟨given, hd, hc, rfl⟩ := exists_settings_of_read h
  have hi := Invocation.consistent_ofSettings hd hc
  exact ⟨hi, hi.decided⟩

/-- A cluster, a value in the next argument and the two hyphens at the end make up an invocation of
this kind. -/
theorem consistent_decided_of_read_cluster :
    ∃ i, read ["-vk0x24", "-t", "a", "--up", "--"] = .ok i ∧ i.key = some 0x24 ∧ i.Consistent ∧
      i.Decided :=
  have h : read ["-vk0x24", "-t", "a", "--up", "--"] =
      .ok { key := some 0x24, text := some "a", up := true, verbose := true } := by decide
  ⟨_, h, rfl, consistent_decided_of_read h⟩

end Keystroke.CommandLine
