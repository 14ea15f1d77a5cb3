import Keystroke.Json.Record
import Keystroke.Json.Variant
import Keystroke.Settings

/-!
Taps, sources and settings in a JSON text.

* `Tap.reader`, `Source.reader`: by their full names, letter case kept;
* `Settings.reader`: settings, each of their fields at its default where it is left out;
* `Settings.ofJson`: the settings a whole text holds.
-/

namespace Keystroke

/-- Reads a tap. -/
def Tap.reader : Json.Reader Tap :=
  Json.Variants.reader ⟨Tap.all, Tap.name⟩

/-- Reads a source. -/
def Source.reader : Json.Reader Source :=
  Json.Variants.reader ⟨Source.all, Source.name⟩

namespace Settings

/-- The fields of settings met so far. -/
structure Draft where
  tap : Option Tap := none
  source : Option Source := none

/-- The fields of settings. -/
def fields : List (Json.Field Draft) :=
  [⟨"tap_location", fun d => d.tap.isSome,
      Tap.reader.map fun t d => { d with tap := some t }⟩,
   ⟨"source_state", fun d => d.source.isSome,
      Source.reader.map fun s d => { d with source := some s }⟩]

/-- The settings of a draft: the default, with the fields that were met. -/
def Draft.finish (d : Draft) : Settings :=
  { tap := d.tap.getD .session, source := d.source.getD .hidSystem }

/-- Settings as a record. -/
def record : Json.Record Draft Settings where
  expected := "struct InjectorConfig"
  fields := fields
  empty := {}
  finish? d := some d.finish

/-- Reads settings. -/
def reader : Json.Reader Settings :=
  record.reader

/-- The settings a JSON text holds. -/
def ofJson (text : String) : Except Json.Error Settings :=
  reader.parse text

end Settings

end Keystroke
