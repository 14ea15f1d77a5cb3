import Keystroke.Json.Compact

/-!
Codes, and the two ways a key can move.

* `Code`: a 16-bit code, of a key position or of a UTF-16 unit;
* `Direction`: down or up, made from a flag by `Direction.ofFlag` and turned into one by
  `Direction.toFlag`; the two are inverse (`toFlag_ofFlag`, `ofFlag_toFlag`).
-/

namespace Keystroke

/-- A 16-bit code. It names a key position, or the UTF-16 unit that goes with an event; every
value is allowed in either place. -/
abbrev Code := UInt16

/-- Which way a key moves. -/
inductive Direction where
  | down
  | up
  deriving DecidableEq

namespace Direction

/-- The direction a flag stands for: set for down. -/
def ofFlag (flag : Bool) : Direction :=
  if flag then down else up

/-- Whether the key goes down. -/
def toFlag : Direction → Bool
  | down => true
  | up => false

@[simp]
theorem toFlag_ofFlag (b : Bool) : (ofFlag b).toFlag = b := by
  cases b <;> rfl

@[simp]
theorem ofFlag_toFlag (d : Direction) : ofFlag d.toFlag = d := by
  cases d <;> rfl

/-- Every direction, in the order in which messages list them. -/
def all : List Direction :=
  [down, up]

/-- The name of a direction, in messages and in JSON. -/
def name : Direction → String
  | down => "down"
  | up => "up"

/-- The described form of a direction. -/
def describe : Direction → String
  | down => "Down"
  | up => "Up"

/-- A direction as JSON: its name, one token. -/
def tokens (d : Direction) : List String :=
  [Json.nameToken d.name]

end Direction

end Keystroke
