import Keystroke.Proofs.Json.Prefixes
import Keystroke.Request.Reading

/-!
Requests whose text is cut off or goes on.

* `Request.reader_closed`: more text does not change the request that is read;
* `Request.ofJson_append`: behind a text that holds a request only blanks may follow, and none of
  the texts that it begins with holds one, unless only blanks are left out.
-/

namespace Keystroke.Request

open Json

/-- Each field ends where a comma or the end of the record begins. -/
lemma steadyFields : record.SteadyFields := by
  intro f hf
  simp only [record, fields, List.mem_cons, List.not_mem_nil, or_false] at hf
  rcases hf with rfl | rfl | rfl
  · exact codeReader_steady.map _
  · exact codeReader_steady.map _
  · exact (Variants.reader_closed _).steady.map _

lemma reader_closed : reader.Closed :=
  Record.reader_closed steadyFields

lemma ofJson_append_eq_ok_iff {text more : String} {r r' : Request} (h : ofJson text = .ok r) :
    ofJson (text ++ more) = .ok r' ↔ (∃ bs : List Blank, more.toList = blanks bs) ∧ r' = r :=
  reader_closed.parse_append_eq_ok_iff h

/-- **Texts that go on**: a text that holds a request still holds one with more text behind it if
and only if that is blanks, and then it is the same request. So a text that holds a request holds
none once more than blanks are cut off from its end. -/
theorem ofJson_append (text more : String) :
    (∀ r, ofJson text = .ok r →
      ∀ r', ofJson (text ++ more) = .ok r' ↔
        (∃ bs : List Blank, more.toList = blanks bs) ∧ r' = r) ∧
    (∀ r, ofJson (text ++ more) = .ok r → (¬∃ bs : List Blank, more.toList = blanks bs) →
      ∃ e, ofJson text = .error e) := by
  refine ⟨fun r h r' => ofJson_append_eq_ok_iff h, fun r h hmore => ?_⟩
  cases hcut : ofJson text with
  | error e => exact ⟨e, rfl⟩
  | ok r₀ =>
      have hblank := ((ofJson_append_eq_ok_iff hcut).mp h).1
      exact absurd hblank hmore

/-- An array with blanks and then with another bracket behind it, and an object that loses its
brace. -/
theorem ofJson_append_edges :
    (ofJson "[0,55296,\"up\"]" = .ok ⟨0, 55296, .up⟩ ∧
      ofJson ("[0,55296,\"up\"]" ++ "\t\n") = .ok ⟨0, 55296, .up⟩ ∧
      ofJson ("[0,55296,\"up\"]" ++ " ]") ≠ .ok ⟨0, 55296, .up⟩) ∧
    ∃ e, ofJson "\x7b\"key_code\":1,\"direction\":\"down\",\"character_code\":97" = .error e := by
  have harray : ofJson "[0,55296,\"up\"]" = .ok ⟨0, 55296, .up⟩ := by decide +kernel
  have hobject : ofJson
      ("\x7b\"key_code\":1,\"direction\":\"down\",\"character_code\":97" ++ "\x7d ") =
        .ok ⟨97, 1, .down⟩ := by
    decide +kernel
  have hno : ∀ c ∈ [']', '\x7d'], ∀ bs : List Blank, c ∉ blanks bs := by
    intro c hc bs hbs
    obtain ⟨b, -, rfl⟩ := List.mem_map.mp hbs
    cases b <;> simp [Blank.char] at hc
  refine ⟨⟨harray, ?_, ?_⟩, ?_⟩
  · exact ((ofJson_append _ "\t\n").1 _ harray _).mpr ⟨⟨[.tab, .lineFeed], rfl⟩, rfl⟩
  · intro h
    obtain ⟨bs, hbs⟩ := (((ofJson_append _ " ]").1 _ harray _).mp h).1
    exact hno ']' (by simp) bs (by simp [← hbs])
  · refine (ofJson_append _ "\x7d ").2 _ hobject ?_
    rintro ⟨bs, hbs⟩
    exact hno '\x7d' (by simp) bs (by simp [← hbs])

end Keystroke.Request
