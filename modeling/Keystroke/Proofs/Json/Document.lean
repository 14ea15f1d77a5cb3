import Keystroke.Text.Utf16
import Mathlib.Tactic.Common

/-!
JSON documents as they are written: what the grammar of the format lets an author choose, and the
text that comes of it.

* `Blank`, `blanks`: what may stand between tokens;
* `StringText`: what stands between the quotes of a string; its UTF-16 units and the strings of
  characters it spells (`StringText.Spells`), of which there is one for each text
  (`StringText.spells_ofString`);
* `NumberText`: a number, with the value of its whole part;
* `Value`, `Item`, `Member`: values of any depth, with the blanks inside them, and `Value.ind`,
  induction over them;
* `Document`: a value with the blanks around it.
-/

namespace Keystroke.Json

/-! ### Blanks -/

/-- A character that may stand between tokens. -/
inductive Blank where
  | space
  | tab
  | lineFeed
  | carriageReturn

/-- The character of a blank. -/
def Blank.char : Blank → Char
  | space => ' '
  | tab => '\t'
  | lineFeed => '\n'
  | carriageReturn => '\r'

/-- The text of a run of blanks. -/
def blanks (bs : List Blank) : List Char :=
  bs.map Blank.char

/-! ### Strings -/

/-- A hexadecimal digit, in either case. -/
structure HexDigit where
  value : Fin 16
  upper : Bool

/-- The last hexadecimal digit of a number. -/
def HexDigit.ofNat (n : Nat) (upper : Bool) : HexDigit :=
  ⟨Fin.ofNat 16 n, upper⟩

/-- The character of a hexadecimal digit. -/
def HexDigit.char (d : HexDigit) : Char :=
  if d.value < 10 then Char.ofNat ('0'.toNat + d.value)
  else if d.upper then Char.ofNat ('A'.toNat + (d.value - 10))
  else Char.ofNat ('a'.toNat + (d.value - 10))

/-- A character that may stand in a string as it is: neither a control character nor a quote nor a
backslash. -/
abbrev PlainChar :=
  { c : Char // 0x20 ≤ c.toNat ∧ c ≠ '"' ∧ c ≠ '\\' }

/-- An escape of one letter. -/
inductive ShortEscape where
  | quote
  | backslash
  | slash
  | backspace
  | formFeed
  | lineFeed
  | carriageReturn
  | tab

namespace ShortEscape

/-- The letter that stands behind the backslash. -/
def letter : ShortEscape → Char
  | quote => '"'
  | backslash => '\\'
  | slash => '/'
  | backspace => 'b'
  | formFeed => 'f'
  | lineFeed => 'n'
  | carriageReturn => 'r'
  | tab => 't'

/-- The character that is meant. -/
def char : ShortEscape → Char
  | quote => '"'
  | backslash => '\\'
  | slash => '/'
  | backspace => '\x08'
  | formFeed => '\x0c'
  | lineFeed => '\n'
  | carriageReturn => '\r'
  | tab => '\t'

end ShortEscape

/-- A piece of a string. -/
inductive Piece where
  | plain (c : PlainChar)
  | short (e : ShortEscape)
  /-- A UTF-16 unit by its four digits. -/
  | unicode (w x y z : HexDigit)

namespace Piece

/-- The unit of four digits. -/
def unit (w x y z : HexDigit) : Nat :=
  ((w.value * 16 + x.value) * 16 + y.value) * 16 + z.value

/-- The text of a piece. -/
def text : Piece → List Char
  | plain c => [c.val]
  | short e => ['\\', e.letter]
  | unicode w x y z => ['\\', 'u', w.char, x.char, y.char, z.char]

/-- The units of a piece. -/
def units : Piece → List Code
  | plain c => Text.utf16Char c.val
  | short e => Text.utf16Char e.char
  | unicode w x y z => [UInt16.ofNat (unit w x y z)]

end Piece

/-- What stands between the quotes of a string. -/
abbrev StringText :=
  List Piece

namespace StringText

/-- The text between the quotes. -/
def text (s : StringText) : List Char :=
  s.flatMap Piece.text

@[simp]
lemma text_nil : text [] = [] := rfl

lemma text_cons (p : Piece) (s : StringText) : text (p :: s) = p.text ++ text s := rfl

/-- The units that a string stands for. -/
def units (s : StringText) : List Code :=
  s.flatMap Piece.units

@[simp]
lemma units_nil : units [] = [] := rfl

lemma units_cons (p : Piece) (s : StringText) : units (p :: s) = p.units ++ units s := rfl

/-- Whether a string stands for some characters. Lone surrogates stand for none. -/
def Spells (s : StringText) (name : String) : Prop :=
  s.units = Text.utf16 name.toList

instance (s : StringText) (name : String) : Decidable (s.Spells name) :=
  inferInstanceAs (Decidable (s.units = _))

/-- The text of a string with its quotes. -/
def quoted (s : StringText) : List Char :=
  '"' :: (s.text ++ ['"'])

lemma quoted_append (s : StringText) (rest : List Char) :
    s.quoted ++ rest = '"' :: (s.text ++ '"' :: rest) := by
  simp [quoted]

/-- A character as it stands, where that is allowed, and otherwise by its unit. -/
def pieceOf (c : Char) : Piece :=
  if h : 0x20 ≤ c.toNat ∧ c ≠ '"' ∧ c ≠ '\\' then .plain ⟨c, h⟩
  else .unicode (.ofNat 0 false) (.ofNat 0 false) (.ofNat (c.toNat / 16) false)
    (.ofNat c.toNat false)

/-- A string that stands for given characters. -/
def ofString (name : String) : StringText :=
  name.toList.map pieceOf

lemma units_pieceOf (c : Char) : (pieceOf c).units = Text.utf16Char c := by
  rw [pieceOf]
  split
  · rfl
  · rename_i h
    have hlt : c.toNat < 0x60 := by
      by_contra hge
      refine h ⟨by omega, ?_, ?_⟩ <;>
      · rintro rfl
        exact hge (by decide)
    have hunit : Piece.unit (.ofNat 0 false) (.ofNat 0 false) (.ofNat (c.toNat / 16) false)
        (.ofNat c.toNat false) = c.toNat := by
      simp only [Piece.unit, HexDigit.ofNat, Fin.ofNat]
      omega
    rw [Piece.units, hunit, Text.utf16Char, if_pos (by omega)]

/-- Every text can be written as a string. -/
lemma spells_ofString (name : String) : (ofString name).Spells name := by
  simp [Spells, units, ofString, Text.utf16, List.flatMap_map, units_pieceOf]

end StringText

/-! ### Numbers -/

/-- A decimal digit. -/
abbrev Digit :=
  Fin 10

/-- The last digit of a number. -/
def Digit.ofNat (n : Nat) : Digit :=
  Fin.ofNat 10 n

/-- The character of a digit. -/
def Digit.char (d : Digit) : Char :=
  Char.ofNat ('0'.toNat + d)

/-- Digits, at least one of them. -/
structure Digits where
  head : Digit
  tail : List Digit

namespace Digits

/-- The digits in order. -/
def toList (ds : Digits) : List Digit :=
  ds.head :: ds.tail

/-- The text of digits. -/
def text (ds : Digits) : List Char :=
  ds.toList.map Digit.char

/-- The value of digits. -/
def value (ds : Digits) : Nat :=
  ds.toList.foldl (fun n d => n * 10 + d.val) 0

end Digits

/-- The digits before the point. A nought stands alone. -/
structure Whole extends Digits where
  canonical : head = 0 → tail = []

/-- The digits before the point, from the first of them on. Behind a nought the others are left
out. -/
def Whole.ofDigits (d : Digit) (ds : List Digit) : Whole :=
  if h : d = 0 then ⟨⟨d, []⟩, fun _ => rfl⟩
  else ⟨⟨d, ds⟩, fun hd => absurd hd h⟩

/-- The exponent of a number. -/
structure Exponent where
  upper : Bool
  /-- The sign that is written, if there is one: set for a minus. -/
  sign : Option Bool
  digits : Digits

/-- The text of an exponent. -/
def Exponent.text (e : Exponent) : List Char :=
  (if e.upper then 'E' else 'e') ::
    ((e.sign.elim [] fun minus => [if minus then '-' else '+']) ++ e.digits.text)

/-- A number. -/
structure NumberText where
  negative : Bool
  whole : Whole
  fraction : Option Digits
  exponent : Option Exponent

namespace NumberText

/-- The text of what follows the digits before the point. -/
def tailText (n : NumberText) : List Char :=
  (n.fraction.elim [] fun ds => '.' :: ds.text) ++ n.exponent.elim [] Exponent.text

/-- The text of a number. -/
def text (n : NumberText) : List Char :=
  (if n.negative then ['-'] else []) ++ (n.whole.text ++ n.tailText)

/-- A number without sign, point and exponent. -/
structure IsPlain (n : NumberText) : Prop where
  negative : n.negative = false
  fraction : n.fraction = none
  exponent : n.exponent = none

end NumberText

/-! ### Values -/

/-- An element of an array, with the blanks around it. -/
structure Item (α : Type) where
  before : List Blank := []
  value : α
  after : List Blank := []

/-- A member of an object, with the blanks around its name and its value. -/
structure Member (α : Type) where
  beforeName : List Blank := []
  name : StringText
  afterName : List Blank := []
  beforeValue : List Blank := []
  value : α
  after : List Blank := []

/-- A value. The blanks of a container are those behind its opening bracket. -/
inductive Value where
  | null
  | boolean (b : Bool)
  | number (n : NumberText)
  | string (s : StringText)
  | list (inner : List Blank) (items : List (Item Value))
  | object (inner : List Blank) (members : List (Member Value))

/-- What separates an element or a member from those before it. -/
def comma (first : Bool) : List Char :=
  if first then [] else [',']

@[simp]
lemma comma_true_append (s : List Char) : comma true ++ s = s := rfl

@[simp]
lemma comma_false_append (s : List Char) : comma false ++ s = ',' :: s := rfl

namespace Value

mutual

/-- The text of a value. -/
def text : Value → List Char
  | null => ['n', 'u', 'l', 'l']
  | boolean b => if b then ['t', 'r', 'u', 'e'] else ['f', 'a', 'l', 's', 'e']
  | number n => n.text
  | string s => s.quoted
  | list inner items => '[' :: (blanks inner ++ (itemsText true items ++ [']']))
  | object inner members => '\x7b' :: (blanks inner ++ (membersText true members ++ ['\x7d']))

/-- The text of elements. -/
def itemsText (first : Bool) : List (Item Value) → List Char
  | [] => []
  | ⟨before, value, after⟩ :: items =>
      comma first ++
        (blanks before ++ (value.text ++ (blanks after ++ itemsText false items)))

/-- The text of members. -/
def membersText (first : Bool) : List (Member Value) → List Char
  | [] => []
  | ⟨beforeName, name, afterName, beforeValue, value, after⟩ :: members =>
      comma first ++
        (blanks beforeName ++ (name.quoted ++ (blanks afterName ++ (':' ::
          (blanks beforeValue ++ (value.text ++ (blanks after ++ membersText false members)))))))

end

lemma itemsText_cons_append (first : Bool) (i : Item Value) (items : List (Item Value))
    (rest : List Char) :
    itemsText first (i :: items) ++ rest = comma first ++
      (blanks i.before ++ (i.value.text ++ (blanks i.after ++
        (itemsText false items ++ rest)))) := by
  simp [itemsText]

lemma membersText_cons_append (first : Bool) (m : Member Value) (ms : List (Member Value))
    (rest : List Char) :
    membersText first (m :: ms) ++ rest = comma first ++
      (blanks m.beforeName ++ (m.name.quoted ++ (blanks m.afterName ++ ':' ::
        (blanks m.beforeValue ++ (m.value.text ++ (blanks m.after ++
          (membersText false ms ++ rest))))))) := by
  simp [membersText]

lemma list_text_append (inner : List Blank) (items : List (Item Value)) (rest : List Char) :
    (list inner items).text ++ rest
      = '[' :: (blanks inner ++ (itemsText true items ++ ']' :: rest)) := by
  simp [text]

lemma object_text_append (inner : List Blank) (ms : List (Member Value)) (rest : List Char) :
    (object inner ms).text ++ rest
      = '\x7b' :: (blanks inner ++ (membersText true ms ++ '\x7d' :: rest)) := by
  simp [text]

/-- Induction over values: a container has what its elements or the values of its members have. -/
@[elab_as_elim, induction_eliminator]
theorem ind {motive : Value → Prop} (null : motive null) (boolean : ∀ b, motive (boolean b))
    (number : ∀ n, motive (number n)) (string : ∀ s, motive (string s))
    (list : ∀ inner items, (∀ i ∈ items, motive i.value) → motive (list inner items))
    (object : ∀ inner members, (∀ m ∈ members, motive m.value) → motive (object inner members)) :
    ∀ v, motive v
  | .null => null
  | .boolean b => boolean b
  | .number n => number n
  | .string s => string s
  | .list inner items =>
      list inner items fun i _ => ind null boolean number string list object i.value
  | .object inner members =>
      object inner members fun m _ => ind null boolean number string list object m.value
termination_by v => sizeOf v
decreasing_by
  · rename_i hi
    have := List.sizeOf_lt_of_mem hi
    cases i
    simp only [Item.mk.sizeOf_spec, Value.list.sizeOf_spec] at this ⊢
    omega
  · rename_i hm
    have := List.sizeOf_lt_of_mem hm
    cases m
    simp only [Member.mk.sizeOf_spec, Value.object.sizeOf_spec] at this ⊢
    omega

/-- An object or an array. -/
def IsContainer : Value → Prop
  | list _ _ => True
  | object _ _ => True
  | _ => False

/-- The members of a value, its own and not those of the values in it. -/
def members : Value → List (Member Value)
  | object _ members => members
  | _ => []

end Value

/-- The values of the members that have a name. -/
def valuesOf (name : String) (ms : List (Member Value)) : List Value :=
  (ms.filter fun m => m.name.Spells name).map Member.value

/-- A document: a value, with blanks around it. -/
structure Document where
  before : List Blank := []
  value : Value
  after : List Blank := []

/-- The text of a document. -/
def Document.text (d : Document) : List Char :=
  blanks d.before ++ (d.value.text ++ blanks d.after)

end Keystroke.Json
