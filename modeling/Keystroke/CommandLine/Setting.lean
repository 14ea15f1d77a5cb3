import Keystroke.CommandLine.OptionName
import Keystroke.Numeral
import Keystroke.Settings

/-!
Options that have been given, with their values.

* `CommandLine.Setting`: an option with its value;
* `Setting.ofValue`: the setting of an option and a value as typed, or why the value will not do;
* `Setting.ofFlag`: the setting of an option without a value.
-/

namespace Keystroke.CommandLine

/-- Why the value of an option will not do. -/
inductive ValueError where
  /-- It is no numeral. -/
  | numeral (e : NumeralError) (text : String)
  /-- It is no name of a tap or a source. -/
  | name (e : PostError)
  deriving DecidableEq

/-- The reason in words. -/
def ValueError.message : ValueError → String
  | numeral e text => e.message text
  | name e => e.message

/-- An option with its value. -/
inductive Setting where
  | key (code : Code)
  | char (code : Code)
  | text (s : String)
  | down
  | up
  | request (json : String)
  | tap (t : Tap)
  | source (s : Source)
  | verbose
  deriving DecidableEq

namespace Setting

/-- The option that was given. -/
def option : Setting → OptionName
  | key _ => .value .key
  | char _ => .value .char
  | text _ => .value .text
  | down => .flag .down
  | up => .flag .up
  | request _ => .value .request
  | tap _ => .value .tap
  | source _ => .value .source
  | verbose => .flag .verbose

/-- The setting of an option without a value. -/
def ofFlag : Flag → Setting
  | .down => down
  | .up => up
  | .verbose => verbose

@[simp]
theorem option_ofFlag (f : Flag) : (ofFlag f).option = .flag f := by
  cases f <;> rfl

/-- A code as typed. -/
def codeOf (s : String) : Except ValueError Code :=
  (Numeral.parse s).mapError fun e => .numeral e s

/-- The setting of an option and its value as typed. Texts and requests are kept as they are. -/
def ofValue (o : ValueOption) (value : String) : Except ValueError Setting :=
  match o with
  | .key => (codeOf value).map key
  | .char => (codeOf value).map char
  | .text => .ok (text value)
  | .request => .ok (request value)
  | .tap => ((Tap.parse value).mapError .name).map tap
  | .source => ((Source.parse value).mapError .name).map source

/-- The setting made from a value belongs to the option it was given for. -/
theorem option_of_ofValue {o : ValueOption} {value : String} {s : Setting}
    (h : ofValue o value = .ok s) : s.option = .value o := by
  cases o <;> simp only [ofValue] at h
  case text | request => simp_all [option, ← Except.ok.inj h]
  case key | char =>
    cases hc : codeOf value <;> simp [hc, Except.map] at h
    simp [← h, option]
  case tap =>
    cases hc : Tap.parse value with
    | error e =>
      rw [hc] at h
      cases h
    | ok t =>
      rw [hc] at h
      rw [← Except.ok.inj h, option]
  case source =>
    cases hc : Source.parse value with
    | error e =>
      rw [hc] at h
      cases h
    | ok t =>
      rw [hc] at h
      rw [← Except.ok.inj h, option]

end Setting

end Keystroke.CommandLine
