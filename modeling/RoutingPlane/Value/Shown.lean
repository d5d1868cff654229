import RoutingPlane.Decimal.Numeral
import RoutingPlane.Decimal.Shortest
import RoutingPlane.Text.Quoted
import RoutingPlane.Value

/-!
Values as they are shown in messages. A collection that is met again inside
itself is cut short there, by its place in the knot. A whole number of too many
digits cannot be written, and neither can a value that holds one.
-/

namespace RoutingPlane.Value

open RoutingPlane.Decimal

def ellipsis : Value → String
  | list _ => "[...]"
  | tuple _ => "(...)"
  | set _ => "set(...)"
  | map _ => "\x7b...\x7d"
  | _ => "..."

def commaList (shown : List String) : String :=
  String.intercalate ", " shown

/-- The digits of a whole number, unless they are too many. -/
def wholeText? (n : Int) : Option String :=
  if longBound ≤ n.natAbs then none else some (toString n)

mutual

/-- A value as it is shown inside other values, when the parts of knots are shown
in a given way: texts stand in quotes. -/
def quotedWith? (part? : Value → Option String) : Value → Option String
  | null => some "None"
  | bool b => some (if b then "True" else "False")
  | int n => wholeText? n
  | float x => some (floatText x)
  | undefined _ => some "nan"
  | text s => some (Text.quoted s)
  | bytes content => some (Text.quotedBytes content)
  | date day => some day.quoted
  | moment time => some time.quoted
  | list items => do
      let shown ← quotedItems? part? items
      return "[" ++ commaList shown ++ "]"
  | tuple items => do
      let shown ← quotedItems? part? items
      return "(" ++ commaList shown ++ (if items.length = 1 then ",)" else ")")
  | set members => do
      let shown ← quotedItems? part? members
      return if members.isEmpty then "set()" else "\x7b" ++ commaList shown ++ "\x7d"
  | map entries => do
      let shown ← quotedEntries? part? entries
      return "\x7b" ++ commaList shown ++ "\x7d"
  | knot parts place => part? (knot parts place)
  | again place => part? (again place)

def quotedItems? (part? : Value → Option String) : List Value → Option (List String)
  | [] => some []
  | item :: rest => do
      let shown ← quotedWith? part? item
      let others ← quotedItems? part? rest
      return shown :: others

def quotedEntries? (part? : Value → Option String) :
    List (Value × Value) → Option (List String)
  | [] => some []
  | (key, value) :: rest => do
      let shownKey ← quotedWith? part? key
      let shown ← quotedWith? part? value
      let others ← quotedEntries? part? rest
      return (shownKey ++ ": " ++ shown) :: others

end

/-- A part of a knot as it is shown inside those at the given places. Each of them
is another part, so their number bounds the nesting. -/
def quotedPart? (parts : Array Value) : Nat → List Nat → Value → Option String
  | nesting + 1, around, again place =>
      match parts[place]? with
      | some content =>
          if around.contains place then some content.ellipsis
          else quotedWith? (quotedPart? parts nesting (place :: around)) content
      | none => some "..."
  | _, _, value => some value.ellipsis

def quotedKnot? : Value → Option String
  | knot parts place => quotedPart? parts (parts.size + 1) [] (again place)
  | value => some value.ellipsis

/-- A value as it is shown inside a message: texts stand in quotes. -/
def quoted? (value : Value) : Option String :=
  quotedWith? quotedKnot? value

def shown? : Value → Option String
  | text s => some s
  | date day => some day.text
  | moment time => some time.text
  | value => value.quoted?

/-- A value as it is shown on its own where a number that cannot be written is
left out. -/
def shown (value : Value) : String :=
  value.shown?.getD ""

example : shown (list [int 1, text "a", map [(text "goto", text "X")]]) =
    "[1, 'a', \x7b'goto': 'X'\x7d]" := by decide +kernel

example : shown (knot #[list [int 1, again 1], map [(text "k", again 0), (int 2, again 1)]] 1) =
    "\x7b'k': [1, \x7b...\x7d], 2: \x7b...\x7d\x7d" := by decide +kernel

end RoutingPlane.Value
