import Keystroke.Json.Compact
import Keystroke.PostError
import Keystroke.Text.Described

/-!
Settings: where events are posted and which state they inherit from.

* `Tap`: the point of the event stream at which events are posted;
* `Source`: the source state that events inherit from;
* `Tap.parse`, `Source.parse`: both by name, the case of ASCII letters apart, a few of them also
  by a shorter name;
* `Settings`: the two together, each with a default.
-/

namespace Keystroke

/-- Where in the event stream of the system events are posted. -/
inductive Tap where
  /-- The input stream of the session, which every application sees. -/
  | session
  /-- Where events of the hardware enter the window server. -/
  | hid
  /-- The stream of the session, once events carry their annotations. -/
  | annotatedSession
  deriving DecidableEq

namespace Tap

/-- Every tap, in the order in which messages list them. -/
def all : List Tap :=
  [session, hid, annotatedSession]

/-- The name of a tap. -/
def name : Tap → String
  | session => "session"
  | hid => "hid"
  | annotatedSession => "annotated-session"

/-- The described form of a tap. -/
def describe : Tap → String
  | session => "Session"
  | hid => "Hid"
  | annotatedSession => "AnnotatedSession"

/-- A tap as JSON: its name, one token. -/
def tokens (t : Tap) : List String :=
  [Json.nameToken t.name]

/-- The tap of a name in lower case, which may be short. -/
def ofName? : String → Option Tap
  | "session" => some session
  | "hid" => some hid
  | "annotated-session" => some annotatedSession
  | "annotated" => some annotatedSession
  | _ => none

/-- The tap of a name in any case. Only ASCII letters are lowered, and the refusal of an unknown
name repeats it lowered. -/
def parse (s : String) : Except PostError Tap :=
  match ofName? (s.map Char.toLower) with
  | some t => .ok t
  | none => .error (.badRequest ("unknown tap location: " ++ s.map Char.toLower))

end Tap

/-- The source state that events inherit from. -/
inductive Source where
  /-- The state of the hardware. -/
  | hidSystem
  /-- The state of the session and of the hardware together. -/
  | combinedSession
  /-- A state of their own. -/
  | ownState
  deriving DecidableEq

namespace Source

/-- Every source, in the order in which messages list them. -/
def all : List Source :=
  [hidSystem, combinedSession, ownState]

/-- The name of a source. -/
def name : Source → String
  | hidSystem => "hid-system"
  | combinedSession => "combined-session"
  | ownState => "private"

/-- The described form of a source. -/
def describe : Source → String
  | hidSystem => "HidSystem"
  | combinedSession => "CombinedSession"
  | ownState => "Private"

/-- A source as JSON: its name, one token. -/
def tokens (s : Source) : List String :=
  [Json.nameToken s.name]

/-- The source of a name in lower case, which may be short. -/
def ofName? : String → Option Source
  | "hid-system" => some hidSystem
  | "hid" => some hidSystem
  | "combined-session" => some combinedSession
  | "combined" => some combinedSession
  | "private" => some ownState
  | _ => none

/-- The source of a name in any case. Only ASCII letters are lowered, and the refusal of an unknown
name repeats it lowered. -/
def parse (s : String) : Except PostError Source :=
  match ofName? (s.map Char.toLower) with
  | some source => .ok source
  | none => .error (.badRequest ("unknown event source state: " ++ s.map Char.toLower))

end Source

/-- Where events are posted and which state they inherit from. By default they go to the session
and inherit the state of the hardware. -/
structure Settings where
  /-- Where events are posted. -/
  tap : Tap := .session
  /-- The state they inherit from. -/
  source : Source := .hidSystem
  deriving DecidableEq

namespace Settings

/-- The settings with another tap. -/
def withTap (s : Settings) (tap : Tap) : Settings :=
  { s with tap }

/-- The settings with another source. -/
def withSource (s : Settings) (source : Source) : Settings :=
  { s with source }

/-- Tap and source do not touch one another: the order in which they are set does not matter. -/
theorem withTap_withSource (s : Settings) (tap : Tap) (source : Source) :
    (s.withSource source).withTap tap = (s.withTap tap).withSource source := rfl

/-- Settings as JSON: an object with the tap and the source. -/
def tokens (s : Settings) : List String :=
  Json.objectTokens [("tap_location", s.tap.tokens), ("source_state", s.source.tokens)]

/-- The compact JSON text of settings. -/
def toJson (s : Settings) : String :=
  Json.compact s.tokens

/-- The described form of settings. -/
def describe (s : Settings) : String :=
  Text.describedRecord "InjectorConfig"
    [("tap_location", s.tap.describe), ("source_state", s.source.describe)]

end Settings

end Keystroke
