import Keystroke.CommandLine.Setting
import Keystroke.Text.Terminal

/-!
What can be wrong with a command line.

* `CommandLine.UsageError`: the causes;
* `UsageError.message`: a cause in words, written for a terminal: what was typed and the names of
  options are highlighted, and the reason why a value will not do is not;
* `UsageError.notice`: the message and the hint that follows it;
* `UsageError.details`: the kind of a cause and what is at fault, one by one.
-/

namespace Keystroke.CommandLine

/-- What is wrong with a command line. -/
inductive UsageError where
  /-- An argument that is no option, as it was written. -/
  | unknown (argument : String)
  /-- A value where none is taken. -/
  | unexpectedValue (o : OptionName) (value : String)
  /-- No value where one is due. -/
  | valueMissing (o : ValueOption)
  /-- A value that will not do. -/
  | badValue (o : ValueOption) (value : String) (e : ValueError)
  /-- An option given more than once. -/
  | repeated (o : OptionName)
  /-- An option given together with others it may not be given with. -/
  | conflict (o : OptionName) (others : List OptionName)
  /-- An option that has to be given. -/
  | missing (o : OptionName)
  deriving DecidableEq

/-- An answer to a command line, taken apart. Options are written as in messages. -/
structure Details where
  /-- The name of its kind. -/
  kind : String
  /-- The arguments at fault. -/
  invalid : List String := []
  /-- The arguments that they may not be given together with. -/
  prior : List String := []
  /-- The values at fault. -/
  values : List String := []
  /-- The reason why a value will not do, in words. -/
  cause : Option String := none
  deriving DecidableEq

/-- A part of the command line that is at fault, between single quotes. -/
def atFault (s : String) : String :=
  "'" ++ Text.highlighted .yellow s ++ "'"

/-- An option to be typed, between single quotes. -/
def literal (s : String) : String :=
  "'" ++ Text.highlighted .bold s ++ "'"

namespace UsageError

/-- The message about a command line. -/
def message : UsageError → String
  | unknown argument => "error: unexpected argument " ++ atFault argument ++ " found"
  | unexpectedValue o value =>
      "error: unexpected value " ++ atFault value ++ " for " ++ literal o.label ++
        " found; no more were expected"
  | valueMissing o =>
      "error: a value is required for " ++ atFault (OptionName.value o).label ++
        " but none was supplied"
  | badValue o value e =>
      "error: invalid value " ++ atFault value ++ " for " ++
        literal (OptionName.value o).label ++ ": " ++ e.message
  | repeated o => "error: the argument " ++ atFault o.label ++ " cannot be used multiple times"
  | conflict o [other] =>
      "error: the argument " ++ atFault o.label ++ " cannot be used with " ++ atFault other.label
  | conflict o _ => "error: the argument " ++ atFault o.label ++ " cannot be used with:"
  | missing _ => "error: the following required arguments were not provided:"

/-- The message, and the hint where to read on. A sequence that the message leaves open reaches
into the hint. -/
def notice (e : UsageError) : String :=
  e.message ++ "\n\nFor more information, try " ++ literal "--help" ++ ".\n"

/-- The kind of a cause, and what is at fault. -/
def details : UsageError → Details
  | unknown argument => { kind := "UnknownArgument", invalid := [argument] }
  | unexpectedValue o value =>
      { kind := "TooManyValues", invalid := [o.label], values := [value] }
  | valueMissing o =>
      { kind := "InvalidValue", invalid := [(OptionName.value o).label], values := [""] }
  | badValue o value e =>
      { kind := "ValueValidation", invalid := [(OptionName.value o).label], values := [value],
        cause := some e.message }
  | repeated o => { kind := "ArgumentConflict", invalid := [o.label], prior := [o.label] }
  | conflict o others =>
      { kind := "ArgumentConflict", invalid := [o.label], prior := others.map OptionName.label }
  | missing o => { kind := "MissingRequiredArgument", invalid := [o.label] }

end UsageError

end Keystroke.CommandLine
