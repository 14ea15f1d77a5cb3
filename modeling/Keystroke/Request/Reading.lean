import Keystroke.Json.Code
import Keystroke.Json.Record
import Keystroke.Json.Variant
import Keystroke.Request

/-!
Directions and requests in a JSON text.

* `Direction.reader`: a direction by name;
* `Request.reader`: a request, all of its fields required;
* `Request.ofJson`: the request a whole text holds.
-/

namespace Keystroke

/-- Reads a direction. -/
def Direction.reader : Json.Reader Direction :=
  Json.Variants.reader ⟨Direction.all, Direction.name⟩

namespace Request

/-- The fields of a request met so far. -/
structure Draft where
  character : Option Code := none
  key : Option Code := none
  direction : Option Direction := none

/-- The fields of a request. -/
def fields : List (Json.Field Draft) :=
  [⟨"character_code", fun d => d.character.isSome,
      Json.codeReader.map fun c d => { d with character := some c }⟩,
   ⟨"key_code", fun d => d.key.isSome,
      Json.codeReader.map fun c d => { d with key := some c }⟩,
   ⟨"direction", fun d => d.direction.isSome,
      Direction.reader.map fun c d => { d with direction := some c }⟩]

/-- The request of a draft that has every field. -/
def Draft.finish? (d : Draft) : Option Request :=
  match d.character, d.key, d.direction with
  | some character, some key, some direction => some ⟨character, key, direction⟩
  | _, _, _ => none

/-- A request as a record. -/
def record : Json.Record Draft Request where
  expected := "struct KeyEventRequest"
  fields := fields
  empty := {}
  finish? := Draft.finish?

/-- Reads a request. -/
def reader : Json.Reader Request :=
  record.reader

/-- The request a JSON text holds. -/
def ofJson (text : String) : Except Json.Error Request :=
  reader.parse text

instance (text : String) (r : Request) : Decidable (ofJson text = .ok r) :=
  match ofJson text with
  | .ok r' => decidable_of_iff (r' = r) (by rw [Except.ok.injEq])
  | .error _ => isFalse nofun

end Request

end Keystroke
