import Keystroke.Request

/-!
Log records: what the library and the program report while they work.

* `Log`: a level, a message and named values;
* `Log.posted`, `Log.notPosted`: the records of the library about one request.
-/

namespace Keystroke

/-- How much a log record matters. -/
inductive Level where
  | debug
  | info
  | warn
  | error
  deriving DecidableEq

/-- The name of a level. -/
def Level.name : Level → String
  | debug => "DEBUG"
  | info => "INFO"
  | warn => "WARN"
  | error => "ERROR"

/-- A value in a log record. -/
inductive LogValue where
  | number (n : Nat)
  | text (s : String)
  deriving DecidableEq

/-- How a value is shown in a line. -/
def LogValue.shown : LogValue → String
  | number n => Nat.repr n
  | text s => s

/-- A log record. -/
structure Log where
  level : Level
  message : String
  fields : List (String × LogValue)
  deriving DecidableEq

namespace Log

/-- What a record says about a request. -/
def requestFields (r : Request) : List (String × LogValue) :=
  [("key_code", .number r.key.toNat),
   ("character_code", .number r.character.toNat),
   ("direction", .text r.direction.name)]

/-- The record of a request that a backend has posted. -/
def posted (backend : String) (r : Request) : Log :=
  ⟨.debug, "Posted key event", ("backend", .text backend) :: requestFields r⟩

/-- The record of a request that was not posted, for the reason given. -/
def notPosted (r : Request) (reason : String) : Log :=
  ⟨.warn, "Key event not posted: " ++ reason, requestFields r⟩

end Log

end Keystroke
