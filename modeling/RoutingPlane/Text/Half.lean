/-!
Texts with halves of pairs. The codes from D800 to DFFF stand for no characters:
two of them in a row stand for one character in an encoding with units of
sixteen bits, and a text can hold such a half alone. A half is kept as a
character of a private area, far above all characters in use, and it is told by
its code wherever texts are shown or put in order.
-/

namespace RoutingPlane.Text

/-- The distance from the code of a half to the character that is kept for it. -/
def halfDistance : Nat := 0x100000

def isHalfCode (code : Nat) : Bool :=
  decide (0xD800 ≤ code) && decide (code < 0xE000)

/-- The character for a code, a half of a pair included. -/
def charOfCode (code : Nat) : Char :=
  if isHalfCode code then Char.ofNat (halfDistance + code) else Char.ofNat code

def isHalf (c : Char) : Bool :=
  decide (halfDistance ≤ c.toNat) && isHalfCode (c.toNat - halfDistance)

/-- The code that a character stands for. -/
def codeOf (c : Char) : Nat :=
  if isHalf c then c.toNat - halfDistance else c.toNat

/-- Whether a text holds a half of a pair, and hence cannot be written to a file. -/
def holdsHalf (text : String) : Bool :=
  text.toList.any isHalf

def codes (text : String) : List Nat :=
  text.toList.map codeOf

def comesBefore (left right : String) : Bool :=
  decide (codes left < codes right)

/-- Whether a text comes before another one or is in the same place. -/
def notAfter (left right : String) : Bool :=
  !comesBefore right left

def sortedBy {α : Type} (text : α → String) (items : List α) : List α :=
  items.mergeSort fun left right => notAfter (text left) (text right)

example : codeOf (charOfCode 0xD83D) = 0xD83D ∧ codeOf (charOfCode 0xDFFF) = 0xDFFF ∧
    codeOf (charOfCode 0xE000) = 0xE000 := by decide +kernel

example : comesBefore (String.singleton (charOfCode 0xD83D)) "\uff21" = true ∧
    comesBefore "a" "ab" = true ∧ comesBefore "b" "ab" = false := by decide +kernel

end RoutingPlane.Text
