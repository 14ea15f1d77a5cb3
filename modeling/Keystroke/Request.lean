import Keystroke.Direction
import Keystroke.Text.Described

/-!
Requests: one key event to post.

The key code alone decides which key is pressed. The character code goes with the event for
listeners that read the produced character; the two are never compared, and a pair that does not
match is kept as it is.

* `Request.ofFlag`, `Request.down`, `Request.up`: requests from their parts;
* `Request.lifted`: the request that lets the same key go, with the same character
  (`lifted_down`, `lifted_lifted`);
* `Request.tokens`, `Request.toJson`, `Request.describe`: the written forms.
-/

namespace Keystroke

/-- A single key event to post. -/
structure Request where
  /-- The UTF-16 unit attached to the event. -/
  character : Code
  /-- The key position. -/
  key : Code
  /-- Which way the key moves. -/
  direction : Direction
  deriving DecidableEq

namespace Request

/-- A request whose direction is given by a flag: set for down. -/
def ofFlag (character key : Code) (flag : Bool) : Request :=
  ⟨character, key, Direction.ofFlag flag⟩

/-- A request that presses a key. -/
def down (character key : Code) : Request :=
  ofFlag character key true

/-- A request that lets a key go. -/
def up (character key : Code) : Request :=
  ofFlag character key false

/-- Whether the request presses its key. -/
def isPress (r : Request) : Bool :=
  r.direction.toFlag

/-- The request that lets the same key go, with the same character. -/
def lifted (r : Request) : Request :=
  { r with direction := .up }

@[simp]
theorem lifted_down (character key : Code) :
    (down character key).lifted = up character key := rfl

@[simp]
theorem lifted_lifted (r : Request) : r.lifted.lifted = r.lifted := rfl

/-- A request as JSON: an object with the character code, the key code and the direction. -/
def tokens (r : Request) : List String :=
  Json.objectTokens
    [("character_code", [Json.codeToken r.character]),
     ("key_code", [Json.codeToken r.key]),
     ("direction", r.direction.tokens)]

/-- The compact JSON text of a request. -/
def toJson (r : Request) : String :=
  Json.compact r.tokens

/-- The described form of a request. -/
def describe (r : Request) : String :=
  Text.describedRecord "KeyEventRequest"
    [("character_code", Nat.repr r.character.toNat),
     ("key_code", Nat.repr r.key.toNat),
     ("direction", r.direction.describe)]

end Request

end Keystroke
