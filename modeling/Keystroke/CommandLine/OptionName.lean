/-!
The options of the command line.

* `ValueOption`, `Flag`, `Query`: options that take a value, options that are either given or not,
  and options that ask about the program;
* `OptionName`: all of them, with their names (`OptionName.ofLong?`, `OptionName.ofShort?`) and
  the way in which messages write them (`OptionName.label`);
* `OptionName.conflictsWith`: the pairs that may not be given together;
* `CommandLine.help`: the lines of the help, one for each option.
-/

namespace Keystroke.CommandLine

/-- An option that takes a value. -/
inductive ValueOption where
  | key
  | char
  | text
  | request
  | tap
  | source
  deriving DecidableEq

/-- An option without a value. -/
inductive Flag where
  | down
  | up
  | verbose
  deriving DecidableEq

/-- An option that asks about the program. -/
inductive Query where
  | help
  | version
  deriving DecidableEq

/-- An option of the command line. -/
inductive OptionName where
  | value (o : ValueOption)
  | flag (f : Flag)
  | query (q : Query)
  deriving DecidableEq

/-- What the value of an option is called. -/
def ValueOption.valueName : ValueOption → String
  | key => "KEY"
  | char => "CHAR_CODE"
  | text => "TEXT"
  | request => "REQUEST"
  | tap => "TAP"
  | source => "SOURCE"

namespace OptionName

/-- Every option, in the order of the help. -/
def all : List OptionName :=
  [value .key, value .char, value .text, flag .down, flag .up, value .request, value .tap,
    value .source, flag .verbose, query .help, query .version]

/-- The name after two hyphens. -/
def long : OptionName → String
  | value .key => "key"
  | value .char => "char"
  | value .text => "text"
  | flag .down => "down"
  | flag .up => "up"
  | value .request => "request"
  | value .tap => "tap"
  | value .source => "source"
  | flag .verbose => "verbose"
  | query .help => "help"
  | query .version => "version"

/-- The letter after one hyphen, for the options that have one. -/
def short? : OptionName → Option Char
  | value .key => some 'k'
  | value .char => some 'c'
  | value .text => some 't'
  | flag .verbose => some 'v'
  | query .help => some 'h'
  | query .version => some 'V'
  | _ => none

/-- The option of a long name. -/
def ofLong? (name : String) : Option OptionName :=
  all.find? fun o => o.long = name

/-- The option of a letter. -/
def ofShort? (c : Char) : Option OptionName :=
  all.find? fun o => o.short? = some c

/-- Long names tell options apart. -/
theorem ofLong?_long (o : OptionName) : ofLong? o.long = some o := by
  rcases o with (_ | _ | _ | _ | _ | _) | (_ | _ | _) | (_ | _) <;> rfl

/-- How messages write an option: its long name, and its value between angle brackets. -/
def label : OptionName → String
  | value o => "--" ++ (value o).long ++ " <" ++ o.valueName ++ ">"
  | o => "--" ++ o.long

/-- The options that may not be given together with an option. -/
def conflicts : OptionName → List OptionName
  | value .key => [value .request]
  | value .char => [value .text, value .request]
  | value .text => [value .char, value .request]
  | flag .down => [flag .up, value .request]
  | flag .up => [flag .down, value .request]
  | value .request => [value .key, value .char, value .text, flag .down, flag .up]
  | _ => []

/-- Whether two options may not be given together. -/
def conflictsWith (o p : OptionName) : Bool :=
  o.conflicts.contains p

/-- Conflicts go both ways. -/
theorem conflictsWith_comm (o p : OptionName) : o.conflictsWith p = p.conflictsWith o := by
  rcases o with (_ | _ | _ | _ | _ | _) | (_ | _ | _) | (_ | _) <;>
    rcases p with (_ | _ | _ | _ | _ | _) | (_ | _ | _) | (_ | _) <;> rfl

/-- What an option is for. -/
def purpose : OptionName → String
  | value .key => "Hardware key code (decimal or 0x-prefixed hex)"
  | value .char => "Character code attached to the event (decimal or 0x-prefixed hex)"
  | value .text => "Character attached to the event, given literally"
  | flag .down => "Post a key-down event"
  | flag .up => "Post a key-up event"
  | value .request =>
      "Full request as JSON, e.g. \x7b\"character_code\":97,\"key_code\":0,\"direction\":\"down\"\x7d"
  | value .tap =>
      "Where the event is posted: session, hid, annotated-session [default: session]"
  | value .source =>
      "Event source state: hid-system, combined-session, private [default: hid-system]"
  | flag .verbose => "Enable debug logging"
  | query .help => "Print help"
  | query .version => "Print version"

end OptionName

/-! ### Help -/

/-- A text with blanks after it up to the given width. -/
def padded (width : Nat) (s : String) : String :=
  s ++ String.ofList (List.replicate (width - s.length) ' ')

/-- How the help writes the letter of an option. -/
def shortColumn (o : OptionName) : String :=
  match o.short? with
  | some c => "-" ++ String.singleton c ++ ", "
  | none => "    "

/-- The line of the help about an option. -/
def helpLine (o : OptionName) : String :=
  "  " ++ shortColumn o ++ padded 21 o.label ++ o.purpose

/-- The lines of the help. -/
def help : List String :=
  ["Post a system-wide synthetic key event", "", "Usage: keysend [OPTIONS]", "", "Options:"] ++
    OptionName.all.map helpLine

/-- The name and the version of the program. -/
def version : String :=
  "keysend 0.1.0"

/-- The answer to a query, line by line. -/
def Query.answer : Query → List String
  | help => CommandLine.help
  | version => [CommandLine.version]

end Keystroke.CommandLine
