import Keystroke.CommandLine.Setting
import Keystroke.Request.Reading
import Keystroke.Text.Utf16

/-!
Invocations: what a command line asks for.

* `Invocation`: the options by name, each given or not;
* `Invocation.ofSettings`: the invocation of a list of settings;
* `Invocation.request`: the request it names, as a whole or by its parts, or why it names none;
* `Invocation.settings`: the tap and the source to post with.
-/

namespace Keystroke.CommandLine

/-- What a command line asks for. -/
structure Invocation where
  key : Option Code := none
  char : Option Code := none
  text : Option String := none
  down : Bool := false
  up : Bool := false
  request? : Option String := none
  tap : Tap := .session
  source : Source := .hidSystem
  verbose : Bool := false
  deriving DecidableEq

/-- Why an invocation names no request. -/
inductive RequestError where
  /-- The JSON text holds no request. -/
  | unreadable (e : Json.Error)
  | keyMissing
  | directionMissing
  /-- The text is not a single UTF-16 unit. -/
  | textNotSingle (text : String)
  | characterMissing

namespace RequestError

/-- The error in words. -/
def message : RequestError → String
  | unreadable _ => "Invalid --request JSON"
  | keyMissing => "--key is required"
  | directionMissing => "one of --down or --up is required"
  | textNotSingle text =>
      "--text must be exactly one UTF-16 code unit, got " ++ Text.quoted text
  | characterMissing => "one of --char or --text is required"

/-- What lies behind an error, in words. -/
def causes : RequestError → List String
  | unreadable e => [e.message]
  | _ => []

end RequestError

namespace Invocation

/-- An invocation with one more setting. -/
def set (i : Invocation) : Setting → Invocation
  | .key code => { i with key := some code }
  | .char code => { i with char := some code }
  | .text s => { i with text := some s }
  | .down => { i with down := true }
  | .up => { i with up := true }
  | .request json => { i with request? := some json }
  | .tap tap => { i with tap }
  | .source source => { i with source }
  | .verbose => { i with verbose := true }

/-- The invocation of a list of settings. -/
def ofSettings (settings : List Setting) : Invocation :=
  settings.foldl set {}

/-- The unit of a text that has exactly one. -/
def textUnit (text : String) : Except RequestError Code :=
  match Text.singleUnit? text with
  | some u => .ok u
  | none => .error (.textNotSingle text)

/-- The character of an invocation. A code comes before a text, which is then not looked at. -/
def character (i : Invocation) : Except RequestError Code :=
  match i.char, i.text with
  | some code, _ => .ok code
  | none, some text => textUnit text
  | none, none => .error .characterMissing

/-- The request named by its parts: key, direction and character, looked at in this order. With
both directions the key goes down. -/
def requestOfParts (i : Invocation) : Except RequestError Request :=
  match i.key with
  | none => .error .keyMissing
  | some key =>
      if !i.down && !i.up then .error .directionMissing
      else i.character.map fun character => Request.ofFlag character key i.down

/-- The request of an invocation. A request given as a whole leaves its parts aside. -/
def request (i : Invocation) : Except RequestError Request :=
  match i.request? with
  | some json => (Request.ofJson json).mapError .unreadable
  | none => i.requestOfParts

/-- The settings of an invocation. -/
def settings (i : Invocation) : Settings :=
  (({} : Settings).withTap i.tap).withSource i.source

end Invocation

end Keystroke.CommandLine
