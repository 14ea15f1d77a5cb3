import Keystroke.Log
import Keystroke.PostError

/-!
Backends, and sending a request through one.

A backend makes events, attaches characters to them and posts them. Sending a request calls it in
this order, stops where no event could be made, and logs an event that was posted. The calls and
the log records are kept in a trace, beside the state of the backend.

* `Backend`: what a backend can do, on states of type `σ` and events of type `ε`;
* `Trace`: the state of a backend, the calls made so far and the records logged so far;
* `Backend.send`: sends one request;
* `Keyboard`: anything that requests can be sent to; a backend is one by `Backend.keyboard`.
-/

namespace Keystroke

/-- A facility that makes and posts key events. Its state may remember anything. -/
structure Backend (σ ε : Type) where
  /-- The name of the backend, for logs. It may change with the state. -/
  name : σ → String
  /-- Makes an event for a key and a direction. -/
  create : Code → Direction → σ → Except PostError ε × σ
  /-- Attaches a character to an event. -/
  attach : ε → Code → σ → ε × σ
  /-- Posts an event. -/
  post : ε → σ → σ

/-- A call to a backend, with what it was given. -/
inductive Call (ε : Type) where
  | create (key : Code) (direction : Direction)
  | attach (event : ε) (character : Code)
  | post (event : ε)

/-- The state of a backend, the calls to it and the records logged, both in order. -/
structure Trace (σ ε : Type) where
  state : σ
  calls : List (Call ε) := []
  logs : List Log := []

namespace Trace

variable {σ ε : Type}

/-- One more call, which leaves the given state. -/
def call (t : Trace σ ε) (c : Call ε) (state : σ) : Trace σ ε :=
  { t with state, calls := t.calls ++ [c] }

/-- One more log record. -/
def log (t : Trace σ ε) (record : Log) : Trace σ ε :=
  { t with logs := t.logs ++ [record] }

end Trace

/-- Anything that requests can be sent to, on states of type `τ`. -/
structure Keyboard (τ : Type) where
  /-- The name, for logs. -/
  name : τ → String
  /-- Posts the event of one request, or says why nothing was posted. -/
  send : Request → τ → Except PostError Unit × τ

namespace Backend

variable {σ ε : Type} (b : Backend σ ε)

/-- Calls a backend to make an event. -/
def callCreate (key : Code) (direction : Direction) (t : Trace σ ε) :
    Except PostError ε × Trace σ ε :=
  let (made, state) := b.create key direction t.state
  (made, t.call (.create key direction) state)

/-- Calls a backend to attach a character to an event. -/
def callAttach (event : ε) (character : Code) (t : Trace σ ε) : ε × Trace σ ε :=
  let (event', state) := b.attach event character t.state
  (event', t.call (.attach event character) state)

/-- Calls a backend to post an event. -/
def callPost (event : ε) (t : Trace σ ε) : Trace σ ε :=
  t.call (.post event) (b.post event t.state)

/-- Sends a request: makes its event, attaches its character, posts it and logs it. Where no
event could be made, nothing else happens. -/
def send (r : Request) (t : Trace σ ε) : Except PostError Unit × Trace σ ε :=
  match b.callCreate r.key r.direction t with
  | (.error e, t) => (.error e, t)
  | (.ok event, t) =>
      let (event, t) := b.callAttach event r.character t
      let t := b.callPost event t
      (.ok (), t.log (.posted (b.name t.state) r))

/-- A backend as a keyboard. -/
def keyboard : Keyboard (Trace σ ε) :=
  ⟨fun t => b.name t.state, b.send⟩

end Backend

end Keystroke
