import Keystroke.Settings.Reading

/-!
Changing settings step by step.

* `Settings.Change`: the steps, each of which may fail;
* `Settings.apply`: the settings after one step, or why it failed;
* `Settings.after`: the settings that a step leaves: a step that fails leaves them as they were.
-/

namespace Keystroke.Settings

/-- One step that changes settings. -/
inductive Change where
  /-- Sets the tap by name. -/
  | tap (name : String)
  /-- Sets the source by name. -/
  | source (name : String)
  /-- Goes back to the default. -/
  | reset
  /-- Takes the settings that a JSON text holds. -/
  | replace (json : String)

/-- Why a step failed. -/
inductive ChangeError where
  /-- The name is unknown. -/
  | name (e : PostError)
  /-- The text holds no settings. -/
  | json (e : Json.Error)

/-- The settings after a step, or why it failed. -/
def apply (s : Settings) : Change → Except ChangeError Settings
  | .tap name =>
      match Tap.parse name with
      | .ok tap => .ok (s.withTap tap)
      | .error e => .error (.name e)
  | .source name =>
      match Source.parse name with
      | .ok source => .ok (s.withSource source)
      | .error e => .error (.name e)
  | .reset => .ok {}
  | .replace json =>
      match ofJson json with
      | .ok s' => .ok s'
      | .error e => .error (.json e)

/-- The settings that a step leaves. -/
def after (s : Settings) (c : Change) : Settings :=
  match s.apply c with
  | .ok s' => s'
  | .error _ => s

/-- The settings that a run of steps leaves. -/
def afterAll (s : Settings) (cs : List Change) : Settings :=
  cs.foldl after s

end Keystroke.Settings
