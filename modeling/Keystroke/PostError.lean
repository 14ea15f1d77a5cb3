import Keystroke.Direction
import Keystroke.Text.Described
import Keystroke.Text.Quoted

/-!
Why an event was not posted.

* `PostError`: the causes;
* `PostError.message`, `PostError.describe`: a cause in words, and in described form;
* `PostError.lacksEvent`: the system had no usable event to give.
-/

namespace Keystroke

/-- A code as `0x` and four hexadecimal digits in lower case. -/
def Code.hex (c : Code) : String :=
  String.ofList
    ['0', 'x', Nat.digitChar (c.toNat / 0x1000), Nat.digitChar (c.toNat / 0x100 % 0x10),
      Nat.digitChar (c.toNat / 0x10 % 0x10), Nat.digitChar (c.toNat % 0x10)]

/-- Why an event was not posted. -/
inductive PostError where
  /-- The source that events are made from could not be opened. -/
  | noSource
  /-- The event for this key and direction could not be made. -/
  | noEvent (key : Code) (direction : Direction)
  /-- The system has no key backend. -/
  | noBackend
  /-- The request makes no sense, for the reason given. -/
  | badRequest (reason : String)
  deriving DecidableEq

namespace PostError

/-- The error in words. -/
def message : PostError → String
  | noSource => "Failed to create keyboard event source"
  | noEvent key direction =>
      "Failed to create key " ++ direction.name ++ " event for key code " ++ key.hex
  | noBackend => "Platform not supported"
  | badRequest reason => "Invalid request: " ++ reason

/-- The name of the kind of error. -/
def kind : PostError → String
  | noSource => "EventSourceUnavailable"
  | noEvent _ _ => "EventCreationFailed"
  | noBackend => "UnsupportedPlatform"
  | badRequest _ => "InvalidRequest"

/-- The described form of an error: its kind, and what it holds. -/
def describe : PostError → String
  | noEvent key direction =>
      Text.describedRecord (noEvent key direction).kind
        [("key_code", Nat.repr key.toNat), ("direction", direction.describe)]
  | badRequest reason => (badRequest reason).kind ++ "(" ++ Text.quoted reason ++ ")"
  | e => e.kind

/-- Whether the system could not hand out a usable event. -/
def lacksEvent : PostError → Bool
  | noSource => true
  | noEvent _ _ => true
  | noBackend => false
  | badRequest _ => false

end PostError

end Keystroke
