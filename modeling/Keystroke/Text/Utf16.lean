import Keystroke.Direction

/-!
The UTF-16 units of a text.

* `Text.utf16`: the units of a text, one for a character below U+10000 and two for any other;
* `Text.Units`: the units of a text as they are taken from it, one after another;
* `Text.singleUnit?`: the unit of a text that has exactly one, for which no more than two are taken.
-/

namespace Keystroke.Text

/-- The units of one character: its code point where that fits, otherwise a leading and a
trailing surrogate. -/
def utf16Char (c : Char) : List Code :=
  if c.toNat < 0x10000 then [UInt16.ofNat c.toNat]
  else
    [UInt16.ofNat (0xd800 + (c.toNat - 0x10000) / 0x400),
     UInt16.ofNat (0xdc00 + (c.toNat - 0x10000) % 0x400)]

/-- The units of a text. -/
def utf16 (s : List Char) : List Code :=
  s.flatMap utf16Char

/-- What units are still to be taken from. -/
structure Units where
  /-- The trailing surrogate of the last character, if it is due next. -/
  due : Option Code := none
  /-- The characters that have not been looked at. -/
  rest : List Char

namespace Units

/-- Takes the next unit. A character is looked at when its first unit is due. -/
def next? : Units → Option (Code × Units)
  | ⟨some u, rest⟩ => some (u, ⟨none, rest⟩)
  | ⟨none, c :: rest⟩ => some ((utf16Char c).headD 0, ⟨(utf16Char c)[1]?, rest⟩)
  | ⟨none, []⟩ => none

end Units

/-- The unit of a text that is a single UTF-16 unit: a first one, and no second. -/
def singleUnit? (s : String) : Option Code :=
  match Units.next? { rest := s.toList } with
  | some (u, units) => if units.next?.isNone then some u else none
  | none => none

end Keystroke.Text
