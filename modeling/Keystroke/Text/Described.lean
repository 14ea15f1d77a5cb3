/-!
The described form of a record: its name, then its fields and their values between braces.
-/

namespace Keystroke.Text

/-- One field of a described record. -/
def describedField (field : String × String) : String :=
  field.1 ++ ": " ++ field.2

/-- A record by name, with its fields in the order given. -/
def describedRecord (name : String) (fields : List (String × String)) : String :=
  name ++ " \x7b " ++ String.intercalate ", " (fields.map describedField) ++ " \x7d"

end Keystroke.Text
