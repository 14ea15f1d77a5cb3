/-!
The compact way of writing JSON: a value is the list of its tokens, and its text is those tokens
with nothing between them.

* `Json.compact`: the text of a list of tokens;
* `Json.nameToken`: a plain name as a string token;
* `Json.objectTokens`: an object from the names and the tokens of its members, in the order given.
-/

namespace Keystroke.Json

/-- The text of a list of tokens, with nothing between them. -/
def compact (tokens : List String) : String :=
  String.join tokens

/-- A name in double quotes. The names written here hold letters, hyphens and underscores only,
so nothing in them is escaped. -/
def nameToken (name : String) : String :=
  "\"" ++ name ++ "\""

/-- A number below the width of a code, in decimal. -/
def codeToken (n : UInt16) : String :=
  Nat.repr n.toNat

/-- The tokens of one member: its name, a colon and the tokens of its value. -/
def memberTokens (member : String × List String) : List String :=
  nameToken member.1 :: ":" :: member.2

/-- The tokens of an object with the given members, a comma between any two of them. -/
def objectTokens (members : List (String × List String)) : List String :=
  "\x7b" :: List.intercalate [","] (members.map memberTokens) ++ ["\x7d"]

end Keystroke.Json
