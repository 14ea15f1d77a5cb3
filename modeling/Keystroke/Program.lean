import Keystroke.Backend
import Keystroke.CommandLine.Reading
import Keystroke.Platform
import Keystroke.Text.Lines

/-!
The program: from a command line to what it prints and the status it ends with.

* `Program.Report`: the status and the lines of both outputs;
* `Program.Host`: a platform to run on, which has a state of its own and opens keyboards;
* `Program.runOn`: a run of a command line on a host. Help and version end with status 0, a wrong
  command line with 2, and a request with 0 if its event was posted and with 1 if not;
* `Program.run`: the report of a command line on this platform, which has no backend.
-/

namespace Keystroke.Program

open CommandLine (Stop RequestError Invocation)

/-- What a run of the program gives. -/
structure Report where
  status : UInt8
  output : List String := []
  errors : List String := []
  deriving DecidableEq

/-- The status of a run that did what it was asked for. -/
def success : UInt8 :=
  0

/-- The status of a run that failed. -/
def failure : UInt8 :=
  1

/-- The status of a run with a wrong command line. -/
def misuse : UInt8 :=
  2

/-! ### Hosts -/

/-- A platform to run on, with states of type `τ`. -/
structure Host (τ : Type) where
  /-- Opens a keyboard with the given settings. -/
  openKeyboard : Settings → τ → Except PostError (Keyboard τ) × τ

/-- This platform: it has no state, and no keyboard can be opened. -/
def backendless : Host Unit where
  openKeyboard settings state := ((Platform.openKeyboard settings).map nofun, state)

/-! ### What is printed -/

/-- A cause in a report: each of its lines moved in. -/
def indented (cause : String) : List String :=
  (Text.lines cause).map fun line => "    " ++ line

/-- The lines about a command line that names no request. -/
def requestErrorLines (e : RequestError) : List String :=
  Text.lines ("Error: " ++ e.message) ++
    match e.causes with
    | [] => []
    | causes => "" :: "Caused by:" :: causes.flatMap indented

/-- The lines of a record in the log. -/
def logLines (record : Log) : List String :=
  Text.lines (record.level.name ++ " keysend: " ++ record.message ++
    String.join (record.fields.map fun field => " " ++ field.1 ++ "=" ++ field.2.shown))

/-- The record of a keyboard that could not be opened. -/
def notOpened (e : PostError) : Log :=
  ⟨.error, "Cannot create key injector: " ++ e.message, []⟩

/-- The record of an event that the keyboard has not posted. -/
def notPosted (e : PostError) : Log :=
  ⟨.error, "Key event not posted: " ++ e.message, []⟩

/-- The record of an event that the keyboard of the given name has posted. -/
def posted (keyboard : String) (r : Request) : Log :=
  ⟨.info, "Key event posted via " ++ keyboard, Log.requestFields r⟩

/-! ### Runs -/

section

variable {τ : Type}

/-- The report of a request sent to a keyboard, and the state that is left. What the keyboard
itself logs is its own. -/
def post (keyboard : Keyboard τ) (r : Request) (state : τ) : Report × τ :=
  match keyboard.send r state with
  | (.error e, state) => ({ status := failure, output := logLines (notPosted e) }, state)
  | (.ok _, state) =>
      ({ status := success, output := logLines (posted (keyboard.name state) r) }, state)

/-- The report of an invocation, and the state in which the host is left. A request that cannot be
made out comes before a keyboard that cannot be opened. -/
def invokeOn (host : Host τ) (i : Invocation) (state : τ) : Report × τ :=
  match i.request with
  | .error e => ({ status := failure, errors := requestErrorLines e }, state)
  | .ok r =>
      match host.openKeyboard i.settings state with
      | (.error e, state) => ({ status := failure, output := logLines (notOpened e) }, state)
      | (.ok keyboard, state) => post keyboard r state

/-- The report of a command line that was not read to its end. No terminal reads along, and of a
notice about a wrong command line the first line counts. -/
def stopped : Stop → Report
  | .query q => { status := success, output := q.answer }
  | .usage e => { status := misuse, errors := [Text.firstLine (Text.plain e.notice)] }

/-- The report of a command line, and the state in which the host is left. -/
def runOn (host : Host τ) (args : List String) (state : τ) : Report × τ :=
  match CommandLine.read args with
  | .error stop => (stopped stop, state)
  | .ok i => invokeOn host i state

end

/-- The report of a command line on this platform. -/
def run (args : List String) : Report :=
  (runOn backendless args ()).1

end Keystroke.Program
