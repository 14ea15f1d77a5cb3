import Keystroke.CommandLine.Invocation
import Keystroke.CommandLine.UsageError

/-!
Reading a command line.

Arguments are read from left to right, and the first one that cannot be read, or that asks about
the program, ends the reading. An option that takes the next argument as its value is pending
until the next option is read or the arguments end; only then is its value looked at. Once all
arguments are read, options that may not be given together are looked for, in the order in which
they were given, and then the options that have to be given.

* `Reading`: the settings so far, the pending option, and whether options have ended;
* `Reading.step`: reads one argument;
* `Reading.finish`: the invocation, once all arguments are read;
* `CommandLine.read`: reads a command line, or says why it `Stop`s;
* `Stop.details`: a stop, taken apart.
-/

namespace Keystroke.CommandLine

/-- Why reading ends before there is an invocation. -/
inductive Stop where
  /-- The command line asks about the program. -/
  | query (q : Query)
  /-- The command line is wrong. -/
  | usage (e : UsageError)
  deriving DecidableEq

/-- The kind of a stop, and what is at fault. -/
def Stop.details : Stop → Details
  | query .help => { kind := "DisplayHelp" }
  | query .version => { kind := "DisplayVersion" }
  | usage e => e.details

/-- An option whose value, if it has one by now, was not looked at yet. -/
structure Pending where
  option : ValueOption
  value : Option String := none
  deriving DecidableEq

/-- How far reading has come. -/
structure Reading where
  /-- The settings so far, in the order of the command line. -/
  given : List Setting := []
  /-- The option that waits for its value or for being looked at. -/
  pending : Option Pending := none
  /-- Whether two hyphens have ended the options. -/
  ended : Bool := false
  deriving DecidableEq

namespace Reading

/-- Whether an option has been given. -/
def has (r : Reading) (o : OptionName) : Bool :=
  r.given.any fun s => s.option = o

/-- Takes a setting, of an option that was not given before. -/
def take (r : Reading) (s : Setting) : Except Stop Reading :=
  if r.has s.option then .error (.usage (.repeated s.option))
  else .ok { r with given := r.given ++ [s] }

/-- Takes an option with its value. That the option was given before comes before its value. -/
def takeValue (r : Reading) (o : ValueOption) (value : String) : Except Stop Reading :=
  if r.has (.value o) then .error (.usage (.repeated (.value o)))
  else
    match Setting.ofValue o value with
    | .ok s => r.take s
    | .error e => .error (.usage (.badValue o value e))

/-- Looks at the pending option. -/
def settle (r : Reading) : Except Stop Reading :=
  match r.pending with
  | none => .ok r
  | some ⟨o, none⟩ => .error (.usage (.valueMissing o))
  | some ⟨o, some value⟩ => { r with pending := none }.takeValue o value

/-- Takes an option that stands alone. -/
def takeOption (r : Reading) (o : OptionName) : Except Stop Reading :=
  match r.settle with
  | .error stop => .error stop
  | .ok r =>
      match o with
      | .value o => .ok { r with pending := some { option := o } }
      | .flag f => r.take (.ofFlag f)
      | .query q => .error (.query q)

/-- Takes an option with a value attached to it. -/
def takeAttached (r : Reading) (o : ValueOption) (value : String) : Except Stop Reading :=
  match r.settle with
  | .error stop => .error stop
  | .ok r => r.takeValue o value

/-- The name and the value of an argument written with an equals sign. -/
def splitValue (s : List Char) : String × Option String :=
  match s.dropWhile (· ≠ '=') with
  | [] => (String.ofList s, none)
  | _ :: value => (String.ofList (s.takeWhile (· ≠ '=')), some (String.ofList value))

/-- Reads what follows two hyphens. -/
def long (r : Reading) (s : List Char) : Except Stop Reading :=
  let (name, value) := splitValue s
  match OptionName.ofLong? name, value with
  | none, _ => .error (.usage (.unknown ("--" ++ name)))
  | some o, none => r.takeOption o
  | some (.value o), some value => r.takeAttached o value
  | some o, some value => .error (.usage (.unexpectedValue o value))

/-- Reads the letters that follow one hyphen. A letter of an option that takes a value has the rest
as its value, less one equals sign. -/
def cluster (r : Reading) : List Char → Except Stop Reading
  | [] => .ok r
  | c :: rest =>
      match OptionName.ofShort? c, rest with
      | none, _ => .error (.usage (.unknown (String.ofList ['-', c])))
      | some (.value o), '=' :: value => r.takeAttached o (String.ofList value)
      | some (.value o), d :: value => r.takeAttached o (String.ofList (d :: value))
      | some o, rest =>
          match r.takeOption o with
          | .error stop => .error stop
          | .ok r => cluster r rest

/-- Reads an argument that does not look like an option: the value of the pending option, if that
has none yet. -/
def operand (r : Reading) (argument : String) : Except Stop Reading :=
  match r.pending with
  | some ⟨o, none⟩ => .ok { r with pending := some ⟨o, some argument⟩ }
  | _ => .error (.usage (.unknown argument))

/-- Reads one argument. A hyphen alone does not look like an option. -/
def step (r : Reading) (argument : String) : Except Stop Reading :=
  if r.ended then .error (.usage (.unknown argument))
  else
    match argument.toList with
    | ['-', '-'] => .ok { r with ended := true }
    | '-' :: '-' :: rest => r.long rest
    | '-' :: c :: rest => r.cluster (c :: rest)
    | _ => r.operand argument

/-! ### The end of the arguments -/

/-- The options of a list that may not be given together with `o`. -/
def conflictsOf (o : OptionName) (options : List OptionName) : List OptionName :=
  options.filter o.conflictsWith

/-- The first option that may not be given together with others, and those others. -/
def conflict? (options : List OptionName) : Option UsageError :=
  (options.find? fun o => !(conflictsOf o options).isEmpty).map fun o =>
    .conflict o (conflictsOf o options)

/-- The option that has to be given and was not: the key, unless there is a whole request. -/
def missing? (options : List OptionName) : Option UsageError :=
  if options.contains (.value .key) || options.contains (.value .request) then none
  else some (.missing (.value .key))

/-- What is wrong with settings that were each taken. -/
def check (given : List Setting) : Option UsageError :=
  let options := given.map Setting.option
  match conflict? options with
  | some e => some e
  | none => missing? options

/-- The invocation, once all arguments are read. -/
def finish (r : Reading) : Except Stop Invocation :=
  match r.settle with
  | .error stop => .error stop
  | .ok r =>
      match check r.given with
      | some e => .error (.usage e)
      | none => .ok (Invocation.ofSettings r.given)

/-- Reads arguments from left to right. -/
def readAll (r : Reading) : List String → Except Stop Reading
  | [] => .ok r
  | argument :: rest =>
      match r.step argument with
      | .error stop => .error stop
      | .ok r => readAll r rest

/-- Arguments that follow others are read from where those have led. -/
theorem readAll_append (r : Reading) (args more : List String) :
    r.readAll (args ++ more) =
      match r.readAll args with
      | .error stop => .error stop
      | .ok r => r.readAll more := by
  induction args generalizing r with
  | nil => rfl
  | cons a rest ih =>
    simp only [List.cons_append, readAll]
    split
    · rfl
    · exact ih _

end Reading

/-- Reads a command line. -/
def read (args : List String) : Except Stop Invocation :=
  match Reading.readAll {} args with
  | .error stop => .error stop
  | .ok r => r.finish

end Keystroke.CommandLine
