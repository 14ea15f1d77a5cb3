import Keystroke.Backend

/-!
A backend that records what it posts and can be told to refuse.

* `Recorder.Mode`: which events the recorder refuses to make, and with which error;
* `Recorder`: its mode, how often it was asked for an event, and the events posted, oldest first;
* `Recorder.backend`: the recorder as a backend.
-/

namespace Keystroke

namespace Recorder

/-- Which events a recorder refuses to make. -/
inductive Mode where
  /-- None. -/
  | willing
  /-- All, as if there were no source of events. -/
  | noSource
  /-- All, as if events could not be made. -/
  | noEvent
  /-- All, as if the system had no backend. -/
  | noBackend
  /-- All, as if the requests made no sense. -/
  | badRequest
  /-- Those for odd key codes. -/
  | noOddKeys
  /-- Those that let a key go. -/
  | noRelease
  deriving DecidableEq

namespace Mode

/-- The mode of a name; any other name is that of the willing mode. -/
def ofName : String → Mode
  | "event_source_unavailable" => noSource
  | "event_creation_failed" => noEvent
  | "unsupported_platform" => noBackend
  | "invalid_request" => badRequest
  | "fail_odd_keys" => noOddKeys
  | "fail_up" => noRelease
  | _ => willing

/-- The error with which a mode refuses an event, if it does. -/
def refusal? (mode : Mode) (key : Code) (direction : Direction) : Option PostError :=
  match mode with
  | willing => none
  | noSource => some .noSource
  | noEvent => some (.noEvent key direction)
  | noBackend => some .noBackend
  | badRequest => some (.badRequest ("refused " ++ Nat.repr key.toNat))
  | noOddKeys => if key.toNat % 2 = 1 then some (.noEvent key direction) else none
  | noRelease => if direction = .up then some .noSource else none

end Mode

/-- An event of a recorder. -/
structure Event where
  key : Code
  direction : Direction
  /-- The character attached to it, once there is one. -/
  character : Option Code
  deriving DecidableEq

end Recorder

/-- A recorder: its mode, the number of events it was asked for, and those posted, oldest first. -/
structure Recorder where
  mode : Recorder.Mode := .willing
  attempts : Nat := 0
  posted : List Recorder.Event := []
  deriving DecidableEq

namespace Recorder

/-- Makes an event, unless the mode refuses it. Either way the attempt counts. -/
def create (key : Code) (direction : Direction) (s : Recorder) :
    Except PostError Event × Recorder :=
  match s.mode.refusal? key direction with
  | some e => (.error e, { s with attempts := s.attempts + 1 })
  | none => (.ok ⟨key, direction, none⟩, { s with attempts := s.attempts + 1 })

/-- Recorders as a backend. -/
def backend : Backend Recorder Event where
  name _ := "recording"
  create := create
  attach event character s := ({ event with character := some character }, s)
  post event s := { s with posted := s.posted ++ [event] }

end Recorder

end Keystroke
