import Keystroke.Decimal.Shortest
import Keystroke.Text.Quoted

/-!
What can be wrong with a JSON text, and where.

* `Json.Cause`: the causes, with their wording (`Cause.message`) and their category: the text is
  malformed, it is cut off, or its values are not those asked for;
* `Json.Position`: a line and a column, counted in bytes;
* `Json.Fault`: a cause and the part of the text that was not read yet;
* `Json.Error`: a cause at a position, made from a fault by `Fault.locate`.
-/

namespace Keystroke.Json

/-- A value that was found where another kind was asked for. -/
inductive Found where
  | null
  | boolean (b : Bool)
  | integer (n : Int)
  | floating (negative : Bool) (x : Decimal.Binary64)
  | string (s : String)
  | sequence
  | map

namespace Found

/-- The text of a floating point number. -/
def floatText (negative : Bool) (x : Decimal.Binary64) : String :=
  String.ofList ((if negative then ['-'] else []) ++ Decimal.text x)

/-- What was found, in words. -/
def message : Found → String
  | null => "null"
  | boolean b => "boolean `" ++ (if b then "true" else "false") ++ "`"
  | integer n => "integer `" ++ Int.repr n ++ "`"
  | floating negative x => "floating point `" ++ floatText negative x ++ "`"
  | string s => "string " ++ Text.quoted s
  | sequence => "sequence"
  | map => "map"

end Found

/-- What is wrong with a JSON text. -/
inductive Cause where
  /-- The text ends inside an array. -/
  | endInList
  /-- The text ends inside an object. -/
  | endInObject
  /-- The text ends inside a string. -/
  | endInString
  /-- The text ends where a value is due. -/
  | endInValue
  | expectedColon
  | expectedListCommaOrEnd
  | expectedObjectCommaOrEnd
  /-- A word other than `null`, `true` and `false`. -/
  | expectedWord
  | expectedValue
  | invalidEscape
  | invalidNumber
  /-- The number passes the largest double. -/
  | numberOutOfRange
  | controlCharacter
  | keyNotString
  /-- A surrogate escape that does not begin or does not complete a pair. -/
  | loneSurrogate
  | trailingComma
  | trailingCharacters
  /-- A leading surrogate escape that no other escape follows. -/
  | unfinishedPair
  /-- A value of another kind than the one asked for. -/
  | invalidType (found : Found) (expected : String)
  /-- A number of the right kind that does not fit. -/
  | invalidValue (n : Int) (expected : String)
  /-- An array that ends early. -/
  | invalidLength (n : Nat) (expected : String)
  | missingField (name : String)
  | duplicateField (name : String)
  /-- A name that none of the variants has. -/
  | unknownVariant (name : String) (expected : List String)

/-- How a JSON text fails. -/
inductive Category where
  /-- It breaks the rules of the format. -/
  | malformed
  /-- It keeps them, but holds other values than those asked for. -/
  | mismatched
  /-- It ends too early. -/
  | cutOff
  deriving DecidableEq

namespace Cause

/-- A name between backquotes. -/
def backquoted (name : String) : String :=
  "`" ++ name ++ "`"

/-- A list of names to choose from. -/
def oneOf : List String → String
  | [name] => backquoted name
  | [first, second] => backquoted first ++ " or " ++ backquoted second
  | names => "one of " ++ String.intercalate ", " (names.map backquoted)

/-- The cause in words. -/
def message : Cause → String
  | endInList => "EOF while parsing a list"
  | endInObject => "EOF while parsing an object"
  | endInString => "EOF while parsing a string"
  | endInValue => "EOF while parsing a value"
  | expectedColon => "expected `:`"
  | expectedListCommaOrEnd => "expected `,` or `]`"
  | expectedObjectCommaOrEnd => "expected `,` or `\x7d`"
  | expectedWord => "expected ident"
  | expectedValue => "expected value"
  | invalidEscape => "invalid escape"
  | invalidNumber => "invalid number"
  | numberOutOfRange => "number out of range"
  | controlCharacter => "control character (\\u0000-\\u001F) found while parsing a string"
  | keyNotString => "key must be a string"
  | loneSurrogate => "lone leading surrogate in hex escape"
  | trailingComma => "trailing comma"
  | trailingCharacters => "trailing characters"
  | unfinishedPair => "unexpected end of hex escape"
  | invalidType found expected => "invalid type: " ++ found.message ++ ", expected " ++ expected
  | invalidValue n expected =>
      "invalid value: " ++ (Found.integer n).message ++ ", expected " ++ expected
  | invalidLength n expected =>
      "invalid length " ++ Nat.repr n ++ ", expected " ++ expected
  | missingField name => "missing field " ++ backquoted name
  | duplicateField name => "duplicate field " ++ backquoted name
  | unknownVariant name expected =>
      "unknown variant " ++ backquoted name ++ ", expected " ++ oneOf expected

/-- The category of a cause. -/
def category : Cause → Category
  | endInList | endInObject | endInString | endInValue => .cutOff
  | invalidType _ _ | invalidValue _ _ | invalidLength _ _ | missingField _ | duplicateField _
  | unknownVariant _ _ => .mismatched
  | _ => .malformed

end Cause

/-- The number of bytes a text takes in UTF-8. -/
def byteLength (s : List Char) : Nat :=
  s.foldl (fun n c => n + c.utf8Size) 0

/-- A place in a text: the line, from one, and the bytes of it that lie before. -/
structure Position where
  line : Nat := 1
  column : Nat := 0
  deriving DecidableEq

namespace Position

/-- The place after one more character. -/
def step (p : Position) (c : Char) : Position :=
  if c = '\n' then ⟨p.line + 1, 0⟩ else ⟨p.line, p.column + c.utf8Size⟩

/-- The place so many bytes into the rest of a text, at most at its end. It may lie inside a
character. -/
def advance (p : Position) : Nat → List Char → Position
  | _, [] => p
  | n, c :: rest =>
      if c.utf8Size ≤ n then (p.step c).advance (n - c.utf8Size) rest
      else ⟨p.line, p.column + n⟩

end Position

/-- A cause, with the part of the text that was not read yet and the bytes of it that the place of
the fault counts as read. -/
structure Fault where
  cause : Cause
  rest : List Char
  counted : Nat := 0

namespace Fault

/-- A fault of what has been read so far. -/
def here (cause : Cause) (rest : List Char) : Fault :=
  ⟨cause, rest, 0⟩

/-- A fault of the character that comes next, whose first byte counts as read. -/
def next (cause : Cause) (rest : List Char) : Fault :=
  ⟨cause, rest, 1⟩

end Fault

/-- A cause at a place. -/
structure Error where
  cause : Cause
  position : Position

namespace Error

/-- The error in words. -/
def message (e : Error) : String :=
  e.cause.message ++ " at line " ++ Nat.repr e.position.line ++
    " column " ++ Nat.repr e.position.column

/-- The category of an error. -/
def category (e : Error) : Category :=
  e.cause.category

end Error

/-- The error a fault is, in the text it was found in. -/
def Fault.locate (text : List Char) (f : Fault) : Error :=
  ⟨f.cause, Position.advance {} (byteLength text - byteLength f.rest + f.counted) text⟩

end Keystroke.Json
