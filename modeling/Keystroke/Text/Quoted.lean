import Keystroke.Text.GraphemeExtend
import Keystroke.Text.Unprintable

/-!
Quoted text: how a message repeats what it was given. The text stands between double quotes;
tab, line feed, carriage return, the null character, the quote and the backslash have escapes of
their own; what cannot be shown by itself is written by its code point, as `\u` and the
hexadecimal digits between braces.

* `Text.isShown`: the characters that stand for themselves, the quote and the backslash apart;
* `Text.escape`: the written form of one character;
* `Text.quoted`: the written form of a text.
-/

namespace Keystroke.Text

/-- The fillers of Hangul: letters that stand for a sound that is not there and leave a blank. -/
def isHangulFiller (c : Char) : Bool :=
  c = '\u115f' || c = '\u1160' || c = '\u3164' || c = '\uffa0'

/-- The halfwidth sound marks of Katakana: letters that extend the character before them and yet
have a cell of their own. -/
def isHalfwidthSoundMark (c : Char) : Bool :=
  c = '\uff9e' || c = '\uff9f'

/-- Whether a character can be shown by itself: it has a printed form that is not blank, and does
not join the character before it. Below U+007F the tables agree with the bound tested first. -/
def isShown (c : Char) : Bool :=
  if c.toNat < 0x7f then 0x20 ≤ c.toNat
  else if isHalfwidthSoundMark c then true
  else !isGraphemeExtend c && !isUnprintable c && !isHangulFiller c

/-- The written form of a character by its code point, without leading zeros. -/
def codePointEscape (c : Char) : List Char :=
  '\\' :: 'u' :: '\x7b' :: (Nat.toDigits 16 c.toNat ++ ['\x7d'])

/-- The written form of one character of a quoted text. -/
def escape (c : Char) : List Char :=
  if c = '\x00' then ['\\', '0']
  else if c = '\t' then ['\\', 't']
  else if c = '\n' then ['\\', 'n']
  else if c = '\r' then ['\\', 'r']
  else if c = '"' then ['\\', '"']
  else if c = '\\' then ['\\', '\\']
  else if isShown c then [c]
  else codePointEscape c

/-- The characters of a quoted text, the quotes apart. -/
def escaped (s : List Char) : List Char :=
  s.flatMap escape

/-- A text between double quotes. -/
def quoted (s : String) : String :=
  String.ofList ('"' :: (escaped s.toList ++ ['"']))

end Keystroke.Text
