import Keystroke.Log
import Keystroke.Settings

/-!
Posting through the backend of the platform. This platform has none: what could be opened is an
empty type, and opening it fails with the one error that says so, whatever the settings.

* `Platform.openKeyboard`: opens a keyboard with the given settings;
* `Platform.send`: sends one request with the default settings;
* `Platform.sendCodes`: the same from codes and a flag, with a log record where it fails.
-/

namespace Keystroke.Platform

/-- The keyboards that this platform can open: none. -/
abbrev OpenKeyboard :=
  Empty

/-- Opens a keyboard with the given settings. -/
def openKeyboard (_ : Settings) : Except PostError OpenKeyboard :=
  .error .noBackend

/-- Sends one request with the default settings. -/
def send (_ : Request) : Except PostError Unit :=
  match openKeyboard {} with
  | .error e => .error e
  | .ok keyboard => nomatch keyboard

/-- Sends the request of codes and a flag. Answers whether its event was posted, and logs why
not. -/
def sendCodes (character key : Code) (flag : Bool) : Bool × List Log :=
  let r := Request.ofFlag character key flag
  match send r with
  | .ok _ => (true, [])
  | .error e => (false, [.notPosted r e.message])

end Keystroke.Platform
