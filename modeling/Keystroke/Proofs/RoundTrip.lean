import Keystroke.Proofs.Json.Spacing
import Keystroke.Proofs.Request.Documents
import Keystroke.Proofs.Settings.Documents

/-!
What is written as JSON is read back.

* `Direction.writes`, `Tap.writes`, `Source.writes`: the token of a name;
* `Request.writes`, `Settings.writes`: the tokens of the records;
* `json_faithful`: requests, directions, settings, taps and sources are written and read faithfully.
-/

namespace Keystroke

open Json

/-! ### Names -/

lemma Direction.writes (d : Direction) : Writes d.tokens fun v => v.Names d.name :=
  writes_nameToken (by cases d <;> decide)

lemma Tap.writes (t : Tap) : Writes t.tokens fun v => v.Names t.name :=
  writes_nameToken (by cases t <;> decide)

lemma Source.writes (s : Source) : Writes s.tokens fun v => v.Names s.name :=
  writes_nameToken (by cases s <;> decide)

/-! ### Records -/

/-- The members of a request. -/
def Request.parts (r : Request) : List Part :=
  [⟨"character_code", [codeToken r.character], fun v => v.IsCode r.character⟩,
   ⟨"key_code", [codeToken r.key], fun v => v.IsCode r.key⟩,
   ⟨"direction", r.direction.tokens, fun v => v.Names r.direction.name⟩]

lemma Request.writes (r : Request) : Writes r.tokens (record.Means · r) := by
  have hparts : ∀ p ∈ r.parts, p.Proper := by
    simp only [parts, List.forall_mem_cons]
    exact ⟨⟨(by decide : Unescaped "character_code"), writes_codeToken _⟩,
      ⟨(by decide : Unescaped "key_code"), writes_codeToken _⟩,
      ⟨(by decide : Unescaped "direction"), r.direction.writes⟩, by simp⟩
  refine (writes_objectTokens hparts).imp ?_
  rintro _ ⟨inner, ms, rfl, hms⟩
  refine (means_object_iff (Part.exists_spells_of_holds hms)).mpr ?_
  obtain _ | ⟨⟨hc, hcode⟩, _ | ⟨⟨hk, hkey⟩, _ | ⟨⟨hd, hdirection⟩, ⟨⟩⟩⟩⟩ := hms
  refine ⟨_, _, _, ?_, ?_, ?_, hcode, hkey, hdirection⟩
  all_goals
    rw [valuesOf_cons hc, valuesOf_cons hk, valuesOf_cons hd]
    rfl

/-- The members of settings. -/
def Settings.parts (s : Settings) : List Part :=
  [⟨"tap_location", s.tap.tokens, fun v => v.Names s.tap.name⟩,
   ⟨"source_state", s.source.tokens, fun v => v.Names s.source.name⟩]

lemma Settings.writes (s : Settings) : Writes s.tokens (record.Means · s) := by
  have hparts : ∀ p ∈ s.parts, p.Proper := by
    simp only [parts, List.forall_mem_cons]
    exact ⟨⟨(by decide : Unescaped "tap_location"), s.tap.writes⟩,
      ⟨(by decide : Unescaped "source_state"), s.source.writes⟩, by simp⟩
  refine (writes_objectTokens hparts).imp ?_
  rintro _ ⟨inner, ms, rfl, hms⟩
  refine (means_iff (Part.exists_spells_of_holds hms)).mpr ⟨some s.tap, some s.source, ?_, rfl⟩
  obtain _ | ⟨⟨hnameTap, htap⟩, _ | ⟨⟨hnameSource, hsource⟩, ⟨⟩⟩⟩ := hms
  refine ⟨trivial, ?_, ?_⟩
  all_goals
    simp only [tapValues, sourceValues, valuesOf_cons hnameTap, valuesOf_cons hnameSource]
  · exact .present htap
  · exact .present hsource

/-! ### All of them -/

/-- **Round trip**: requests, directions, settings, taps and sources are read back from their tokens
in any spacing, and their compact text is the normal form of every text that they are read from. -/
theorem json_faithful :
    Faithful Request.tokens Request.ofJson ∧ Faithful Direction.tokens Direction.reader.parse ∧
      Faithful Settings.tokens Settings.ofJson ∧ Faithful Tap.tokens Tap.reader.parse ∧
      Faithful Source.tokens Source.reader.parse :=
  ⟨Writes.faithful (Record.reader_decodes Request.readsFields) Request.writes,
    Writes.faithful Direction.reader_decodes Direction.writes,
    Writes.faithful (Record.reader_decodes Settings.readsFields) Settings.writes,
    Writes.faithful Tap.reader_decodes Tap.writes,
    Writes.faithful Source.reader_decodes Source.writes⟩

/-- A request with a lone surrogate, and settings that are not the default, with blanks in many
places. -/
theorem json_faithful_spaced :
    Request.ofJson
        " \x7b\"character_code\"\t:\n55296 ,\"key_code\":0,\r\n\"direction\" :\"up\"\x7d " =
        .ok ⟨55296, 0, .up⟩ ∧
      Settings.ofJson
        "\x7b \"tap_location\" : \"hid\" , \"source_state\" : \"private\" \x7d" =
        .ok ⟨.hid, .ownState⟩ := by
  have hrequest : Spaced (Request.tokens ⟨55296, 0, .up⟩) _ :=
    .cons [.space] (.cons [] (.cons [.tab] (.cons [.lineFeed] (.cons [.space] (.cons [] (.cons []
      (.cons [] (.cons [] (.cons [.carriageReturn, .lineFeed] (.cons [.space] (.cons [] (.cons []
        (.nil [.space])))))))))))))
  have hsettings : Spaced (Settings.tokens ⟨.hid, .ownState⟩) _ :=
    .cons [] (.cons [.space] (.cons [.space] (.cons [.space] (.cons [.space] (.cons [.space]
      (.cons [.space] (.cons [.space] (.cons [.space] (.nil [])))))))))
  exact ⟨json_faithful.1.spaced _ _ hrequest, json_faithful.2.2.1.spaced _ _ hsettings⟩

end Keystroke
