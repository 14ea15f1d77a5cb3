import Keystroke.Proofs.CommandLine.Acceptance
import Keystroke.Proofs.CommandLine.Consistency

/-!
The ways of naming a request on a command line.

* `Names`: a command line names a request;
* `names_of_char`, `names_of_text`, `names_of_json`: by a key, a code and a direction, by a character
  in place of the code, and as a whole;
* `text_of_mem`: a text after an equals sign is the text of the invocation, wherever it stands;
* `names_agree`: the three ways name the same request, but a surrogate is never named by a text.
-/

namespace Keystroke.CommandLine

open Occurrence (settings)

/-- A command line names a request. -/
def Names (args : List String) (r : Request) : Prop :=
  ∃ i, read args = .ok i ∧ i.request = .ok r

/-! ### The three ways -/

/-- Occurrences whose settings pass the check are read as the invocation of these settings. -/
lemma read_eq_ofSettings {args : List String} {us : List Occurrence} {given : List Setting}
    (h : Spells args us) (hset : us.map Occurrence.setting? = given.map some)
    (hd : Distinct given) (hc : Reading.check given = none) :
    read args = .ok (.ofSettings given) := by
  have hgiven : settings us = given := by
    have := congrArg (List.filterMap id) hset
    simpa [settings, List.filterMap_map] using this
  refine (read_eq_ok_iff_of_spells h).mpr ⟨fun u hu => ?_, by rwa [hgiven], by rwa [hgiven], ?_⟩
  · have hmem : u.setting? ∈ given.map some := hset ▸ List.mem_map_of_mem hu
    obtain ⟨s, -, hs⟩ := List.mem_map.mp hmem
    simp [← hs]
  · rw [hgiven]

/-- The flag that gives a direction. -/
def flagOf : Direction → Flag
  | .down => .down
  | .up => .up

lemma spells_flagOf (d : Direction) : Spells ["--" ++ d.name] [.flag (flagOf d)] := by
  cases d with
  | down => exact .long (u := .flag .down) trivial .nil
  | up => exact .long (u := .flag .up) trivial .nil

section Parts

variable {a b t : String} {k c : Code} {d : Direction}

/-- A key, a code or a text, and a direction are read as such. -/
lemma read_of_parts {args : List String} {u : Occurrence} {s : Setting}
    (h : Spells args [.value .key a, u, .flag (flagOf d)]) (ha : Numeral.parse a = .ok k)
    (hu : u.setting? = some s) (hs : s.option = .value .char ∨ s.option = .value .text) :
    read args = .ok (.ofSettings [.key k, s, .ofFlag (flagOf d)]) := by
  have hoptions : [Setting.key k, s, .ofFlag (flagOf d)].map Setting.option =
      [.value .key, s.option, .flag (flagOf d)] := by
    simp only [List.map_cons, List.map_nil, Setting.option_ofFlag]
    rfl
  refine read_eq_ofSettings h ?_ ?_ ?_
  · simp [ha, hu, Except.toOption]
  · rw [Distinct, hoptions]
    rcases hs with hs | hs <;> simp [hs]
  · rw [Reading.check, hoptions]
    rcases hs with hs | hs <;> cases d <;> rw [hs] <;> rfl

/-- A key, a code and a direction name the request they make up. -/
lemma names_of_char (ha : Numeral.parse a = .ok k) (hb : Numeral.parse b = .ok c) :
    Names ["--key=" ++ a, "--char=" ++ b, "--" ++ d.name] ⟨c, k, d⟩ := by
  have hspells : Spells ["--key=" ++ a, "--char=" ++ b, "--" ++ d.name]
      [.value .key a, .value .char b, .flag (flagOf d)] :=
    .longEquals .key a (.longEquals .char b (spells_flagOf d))
  have hu : (Occurrence.value .char b).setting? = some (.char c) := by simp [hb, Except.toOption]
  exact ⟨_, read_of_parts hspells ha hu (.inl rfl), by cases d <;> rfl⟩

/-- A character stands for its code point. -/
lemma names_of_text (ha : Numeral.parse a = .ok k) {x : Char} (hx : x.toNat = c.toNat) :
    Names ["--key=" ++ a, "--text=" ++ String.singleton x, "--" ++ d.name] ⟨c, k, d⟩ := by
  have hspells : Spells ["--key=" ++ a, "--text=" ++ String.singleton x, "--" ++ d.name]
      [.value .key a, .value .text (String.singleton x), .flag (flagOf d)] :=
    .longEquals .key a (.longEquals .text _ (spells_flagOf d))
  have hunit : Invocation.textUnit (String.singleton x) = .ok c := by
    rw [Invocation.textUnit_eq_ok_iff, Text.utf16_eq_singleton_iff]
    exact ⟨x, by simp, hx⟩
  refine ⟨_, read_of_parts hspells ha (Occurrence.setting?_text _) (.inr rfl), ?_⟩
  cases d <;> simp [Invocation.ofSettings, Invocation.set, Invocation.request,
    Invocation.requestOfParts, Invocation.character, Setting.ofFlag, flagOf, hunit, Except.map,
    Request.ofFlag, Direction.ofFlag]

/-- A whole request names what its text holds. -/
lemma names_of_json {r : Request} (ht : Request.ofJson t = .ok r) :
    Names ["--request=" ++ t] r := by
  have hspells : Spells ["--request=" ++ t] [.value .request t] := .longEquals .request t .nil
  have hread : read ["--request=" ++ t] = .ok (.ofSettings [.request t]) :=
    read_eq_ofSettings hspells rfl (List.nodup_singleton _) rfl
  refine ⟨_, hread, ?_⟩
  simp [Invocation.ofSettings, Invocation.set, Invocation.request, ht, Except.mapError]

end Parts

/-! ### Texts and surrogates -/

/-- A value after an equals sign is taken at once, whatever was read before. -/
lemma exists_setting_of_step {r r' : Reading} {o : ValueOption} {v : String}
    (h : r.step ("--" ++ (OptionName.value o).long ++ "=" ++ v) = .ok r') :
    ∃ s, Setting.ofValue o v = .ok s ∧ s ∈ r'.given := by
  cases hended : r.ended with
  | true => simp [Reading.step, hended] at h
  | false =>
      -- no name of an option holds an equals sign, so the first one is that before the value
      rw [String.append_assoc, String.append_assoc, Reading.step_long hended (by simp)] at h
      have hlong : ((OptionName.value o).long ++ ("=" ++ v)).toList =
          (OptionName.value o).long.toList ++ '=' :: v.toList := by simp
      rw [hlong, Reading.long_equals, Reading.takeAttached] at h
      split at h
      · simp at h
      · obtain ⟨s, hs, ht⟩ := exists_setting_of_takeValue h
        obtain ⟨-, rfl⟩ := take_eq_ok_iff.mp ht
        exact ⟨s, by simpa using hs, by simp⟩

/-- A text after an equals sign is the text of the invocation, whatever else is given. -/
lemma text_of_mem {args : List String} {i : Invocation} {s : String} (hmem : "--text=" ++ s ∈ args)
    (h : read args = .ok i) : i.text = some s := by
  obtain ⟨before, after, rfl⟩ := List.append_of_mem hmem
  rw [← List.singleton_append, ← List.append_assoc] at h
  -- the text is there as soon as its argument is read, and what is given stays to the end
  obtain ⟨r, given, hr, hkept, hd, rfl⟩ := exists_settings_of_read_append h
  obtain ⟨r₁, -, hr⟩ := exists_of_readAll_append hr
  obtain ⟨r₂, hstep, hr⟩ := exists_of_readAll_cons hr
  obtain rfl := Except.ok.inj hr
  obtain ⟨t, ht, hgiven⟩ := exists_setting_of_step (o := .text) hstep
  obtain rfl := Except.ok.inj ht
  exact (text_eq_some_iff hd).mpr (hkept.subset hgiven)

/-- A request with a surrogate is not made from a text. -/
lemma char_or_whole_of_isSurrogate {args : List String} {i : Invocation} {r : Request}
    (h : read args = .ok i) (hr : i.request = .ok r) (hc : Text.IsSurrogate r.character) :
    i.text = none ∧
      (i.char = some r.character ∨ ∃ t, i.request? = some t ∧ Request.ofJson t = .ok r) := by
  obtain ⟨given, hd, hcheck, rfl⟩ := exists_settings_of_read h
  have hi := Invocation.consistent_ofSettings hd hcheck
  cases hw : (Invocation.ofSettings given).request? with
  | some t =>
      refine ⟨(hi.whole (by simp [hw])).2.2.1, .inr ⟨t, rfl, ?_⟩⟩
      rw [Invocation.request, hw] at hr
      cases ht : Request.ofJson t with
      | error e => simp [ht, Except.mapError] at hr
      | ok r' =>
          simp only [ht, Except.mapError, Except.ok.injEq] at hr
          rw [hr]
  | none =>
      obtain ⟨-, hchar, -⟩ := (Invocation.request_eq_ok_iff hi hw).mp hr
      rcases hchar with hchar | ⟨s, -, hs⟩
      · refine ⟨?_, .inl hchar⟩
        simpa [hchar] using hi.character
      · exact absurd hc (Text.not_isSurrogate_of_utf16_eq hs)

/-- **Ways of naming a request**: a key, a code and a direction, however the codes are written, name
the same request as any JSON text that holds it, and so does the character of the code in its place
if the code is no surrogate.  A command line with a text never names a surrogate: that takes a code
or a whole request. -/
theorem names_agree :
    (∀ (a b t : String) (k c : Code) (d : Direction), Numeral.parse a = .ok k →
      Numeral.parse b = .ok c → Request.ofJson t = .ok ⟨c, k, d⟩ →
        Names ["--key=" ++ a, "--char=" ++ b, "--" ++ d.name] ⟨c, k, d⟩ ∧
          Names ["--request=" ++ t] ⟨c, k, d⟩ ∧
          (¬ Text.IsSurrogate c → ∃ x : Char, x.toNat = c.toNat ∧
            Names ["--key=" ++ a, "--text=" ++ String.singleton x, "--" ++ d.name] ⟨c, k, d⟩)) ∧
      (∀ args s r, "--text=" ++ s ∈ args → Names args r → ¬ Text.IsSurrogate r.character) ∧
      ∀ args i r, read args = .ok i → i.request = .ok r → Text.IsSurrogate r.character →
        i.text = none ∧
          (i.char = some r.character ∨ ∃ t, i.request? = some t ∧ Request.ofJson t = .ok r) := by
  refine ⟨fun a b t k c d ha hb ht => ⟨names_of_char ha hb, names_of_json ht, fun hc => ?_⟩, ?_,
    fun args i r h hr hc => char_or_whole_of_isSurrogate h hr hc⟩
  · obtain ⟨x, hx⟩ := Text.exists_toNat_eq hc
    exact ⟨x, hx, names_of_text ha hx⟩
  · rintro args s r hmem ⟨i, h, hr⟩ hc
    have htext := (char_or_whole_of_isSurrogate h hr hc).1
    rw [text_of_mem hmem h] at htext
    cases htext

/-- The last code is named in all three ways; the first surrogate by a code and as a whole, but by
no text. -/
theorem names_agree_edges :
    (∃ x : Char, x.toNat = 0xffff ∧
        Names ["--key=0X24", "--text=" ++ String.singleton x, "--down"] ⟨0xffff, 0x24, .down⟩ ∧
        Names ["--key=0X24", "--char=+65535", "--down"] ⟨0xffff, 0x24, .down⟩ ∧
        Names ["--request=[65535,36,\"down\"]"] ⟨0xffff, 0x24, .down⟩) ∧
      Names ["--key=0X24", "--char=0xd800", "--up"] ⟨0xd800, 0x24, .up⟩ ∧
      Names ["--request=[55296, 36, \"up\"]"] ⟨0xd800, 0x24, .up⟩ ∧
      ¬ Names ["-k36", "--text=a", "--up"] ⟨0xd800, 0x24, .up⟩ := by
  have hkey : Numeral.parse "0X24" = .ok 0x24 := by decide
  have hlast := names_agree.1 "0X24" "+65535" "[65535,36,\"down\"]" 0x24 0xffff .down hkey
    (by decide) (by decide +kernel)
  have hfirst := names_agree.1 "0X24" "0xd800" "[55296, 36, \"up\"]" 0x24 0xd800 .up hkey
    (by decide) (by decide +kernel)
  obtain ⟨x, hx, htext⟩ := hlast.2.2 (by decide)
  refine ⟨⟨x, hx, htext, hlast.1, hlast.2.1⟩, hfirst.1, hfirst.2.1, fun h => ?_⟩
  exact names_agree.2.1 _ "a" _ (by decide) h (by decide)

end Keystroke.CommandLine
