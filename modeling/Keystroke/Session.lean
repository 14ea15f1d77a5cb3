import Keystroke.Recorder
import Keystroke.Request.Reading

/-!
Sessions: several keyboards over recorders, numbered from nought, and steps addressed to them.

* `Session.Step`, `Session.Reply`: what can be asked of a keyboard, and its reply;
* `Session.run`: one step on the recorder it is addressed to;
* `Session.step`: one step of a session, with the calls and the log records it caused and the
  recorder it leaves. A copy and a fresh keyboard get the next number.
-/

namespace Keystroke

/-- The recorders behind the keyboards of a session. -/
structure Session where
  recorders : List Recorder := [{}]
  deriving DecidableEq

namespace Session

/-- What can be asked of a keyboard. -/
inductive Step where
  /-- Sends a request to the backend. -/
  | send (r : Request)
  /-- Sends a request to the backend as a keyboard. -/
  | sendByKeyboard (r : Request)
  /-- Sends a key-down request and then its release, whatever became of the first. -/
  | press (character key : Code)
  /-- Sends the request that a JSON text holds. -/
  | sendJson (json : String)
  /-- Asks for the name. -/
  | name
  /-- Sets the mode of the recorder. -/
  | mode (m : Recorder.Mode)
  /-- Asks for the events posted. -/
  | posted
  /-- Makes a copy of the keyboard. -/
  | copy
  /-- Makes a new keyboard. -/
  | fresh

/-- The reply to a step. -/
inductive Reply where
  /-- The step is done, and has nothing to say. -/
  | done
  | outcome (o : Except PostError Unit)
  | outcomes (down up : Except PostError Unit)
  /-- The text holds no request. -/
  | unreadable (e : Json.Error)
  | name (s : String)
  | posted (events : List Recorder.Event)
  /-- The number of a new keyboard. -/
  | keyboard (n : Nat)

/-- The trace of a recorder. -/
abbrev Run :=
  Trace Recorder Recorder.Event

/-- Sends a request and replies with the outcome. -/
def runSend (r : Request) (t : Run) : Reply × Run :=
  let (o, t) := Recorder.backend.send r t
  (.outcome o, t)

/-- A press: a key-down request and its release. -/
def runPress (character key : Code) (t : Run) : Reply × Run :=
  let down := Request.down character key
  let (o₁, t) := Recorder.backend.send down t
  let (o₂, t) := Recorder.backend.send down.lifted t
  (.outcomes o₁ o₂, t)

/-- One step on the recorder it is addressed to. `count` is the number of keyboards there are,
which is the number that a new one gets. -/
def run (count : Nat) (s : Step) (t : Run) : Reply × Run :=
  match s with
  | .send r => runSend r t
  | .sendByKeyboard r =>
      let (o, t) := Recorder.backend.keyboard.send r t
      (.outcome o, t)
  | .press character key => runPress character key t
  | .sendJson json =>
      match Request.ofJson json with
      | .ok r => runSend r t
      | .error e => (.unreadable e, t)
  | .name => (.name (Recorder.backend.keyboard.name t), t)
  | .mode m => (.done, { t with state := { t.state with mode := m } })
  | .posted => (.posted t.state.posted, t)
  | .copy => (.keyboard count, t)
  | .fresh => (.keyboard count, t)

/-- The recorders that a step adds to a session, when it was addressed to the given one. -/
def added (s : Step) (addressed : Recorder) : List Recorder :=
  match s with
  | .copy => [addressed]
  | .fresh => [{}]
  | _ => []

/-- The reply to a step, what it caused, and the recorder it was addressed to as it then stands. -/
structure Answer where
  reply : Reply
  calls : List (Call Recorder.Event)
  logs : List Log
  recorder : Recorder

/-- One step addressed to keyboard `on`; none if there is no such keyboard. -/
def step (session : Session) (on : Nat) (s : Step) : Option (Answer × Session) :=
  match session.recorders[on]? with
  | none => none
  | some recorder =>
      let (reply, t) := run session.recorders.length s { state := recorder }
      some (⟨reply, t.calls, t.logs, t.state⟩,
        ⟨session.recorders.set on t.state ++ added s t.state⟩)

/-- A list of steps, each with the number of the keyboard it is addressed to. -/
def steps (session : Session) : List (Nat × Step) → Option (List Answer × Session)
  | [] => some ([], session)
  | (on, s) :: rest =>
      match session.step on s with
      | none => none
      | some (answer, session) =>
          match session.steps rest with
          | none => none
          | some (answers, session) => some (answer :: answers, session)

end Session

end Keystroke
