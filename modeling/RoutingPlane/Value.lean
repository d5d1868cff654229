import RoutingPlane.Calendar
import RoutingPlane.Decimal.Binary64

/-!
Untyped values, as a decoded configuration document holds them: which of them
count as false and when two of them are equal. Truth values are numbers for the
purpose of comparison, and numbers are compared by their exact value whatever
their kind. A collection may contain itself: then it is one of the parts of a
knot, which refer to each other by their places.
-/

namespace RoutingPlane

open RoutingPlane.Decimal

/-- An untyped value. The entries of a mapping stand in the order in which they
were written. -/
inductive Value where
  | null
  | bool (b : Bool)
  | int (n : Int)
  | float (x : Float)
  /-- The number that is undefined. It differs from itself, but one that was
  written once can be found again where it is repeated. -/
  | undefined (occurrence : Nat)
  | text (s : String)
  | bytes (content : List UInt8)
  | date (day : CalendarDate)
  | moment (time : Moment)
  | list (items : List Value)
  /-- A list that cannot be changed, and hence can be a key. -/
  | tuple (items : List Value)
  | set (members : List Value)
  | map (entries : List (Value × Value))
  /-- A collection among others that lead back to each other, by its place among
  them. -/
  | knot (parts : Array Value) (place : Nat)
  /-- Inside the parts of a knot, the part at a place. -/
  | again (place : Nat)
  deriving Inhabited, Repr

namespace Value

/-- A number in double precision, which is undefined at the given occurrence or
not at all. -/
def ofFloat (occurrence : Nat) (x : Float) : Value :=
  if x.isNaN then undefined occurrence else float x

/-! ## Values that contain themselves -/

/-- A value inside a part of a knot as it is seen from outside. -/
def tied (parts : Array Value) : Value → Value
  | again place => knot parts place
  | value => value

/-- The collection that a knot stands for, so that its items can be taken out;
any other value as it is. -/
def opened : Value → Value
  | knot parts place =>
      match parts[place]? with
      | some (list items) => list (items.map (tied parts))
      | some (tuple items) => tuple (items.map (tied parts))
      | some (map entries) => map (entries.map fun entry => (entry.1, tied parts entry.2))
      | _ => null
  | value => value

mutual

/-- How deeply collections lie inside each other in a value. Knots are not looked
into. -/
def depth : Value → Nat
  | list items => itemsDepth items + 1
  | tuple items => itemsDepth items + 1
  | set members => itemsDepth members + 1
  | map entries => entriesDepth entries + 1
  | _ => 0

/-- How deeply collections lie inside each other in the items of a list. -/
def itemsDepth : List Value → Nat
  | [] => 0
  | item :: rest => max item.depth (itemsDepth rest)

/-- How deeply collections lie inside each other in the entries of a mapping. -/
def entriesDepth : List (Value × Value) → Nat
  | [] => 0
  | (key, value) :: rest => max (max key.depth value.depth) (entriesDepth rest)

end

/-! ## Truth and equality -/

def isNull : Value → Bool
  | null => true
  | _ => false

/-- Whether a value counts as true: nothing, zeros and all that is empty do not. -/
def truthy : Value → Bool
  | null => false
  | bool b => b
  | int n => n != 0
  | float x => !(x == 0.0)
  | text s => s != ""
  | bytes content => !content.isEmpty
  | list items => !items.isEmpty
  | tuple items => !items.isEmpty
  | set members => !members.isEmpty
  | map entries => !entries.isEmpty
  | _ => true

/-- Whether a double precision number has exactly the value of a whole number. -/
def floatIsInt (x : Float) (n : Int) : Bool :=
  match Binary64.ofFloat x with
  | .finite value => decide (value.floor = n) && decide (-(Dyadic.floor
      { value with negative := !value.negative }) = n)
  | _ => false

/-- Whether two times are equal: those of clocks with known offsets if they are
the same instant. -/
def sameMoment (left right : Moment) : Bool :=
  left.comparable right && decide (left.instant = right.instant)

def sameScalar : Value → Value → Bool
  | null, null => true
  | text s, text t => decide (s = t)
  | bytes left, bytes right => decide (left = right)
  | date left, date right => decide (left = right)
  | moment left, moment right => sameMoment left right
  | bool b, bool c => decide (b = c)
  | bool b, int n | int n, bool b => decide ((if b then 1 else 0) = n)
  | bool b, float x | float x, bool b => floatIsInt x (if b then 1 else 0)
  | int m, int n => decide (m = n)
  | int n, float x | float x, int n => floatIsInt x n
  | float x, float y => x == y
  | undefined left, undefined right => decide (left = right)
  | again left, again right => decide (left = right)
  | _, _ => false

mutual

/-- Whether two values are the same as parts of collections. Two mappings are the
same if they have the same entries, in any order, and two collections of a knot
if they are in the same place. -/
def same : Value → Value → Bool
  | list items, other =>
      match other with
      | list others => sameItems items others
      | _ => false
  | tuple items, other =>
      match other with
      | tuple others => sameItems items others
      | _ => false
  | set members, other =>
      match other with
      | set others => decide (members.length = others.length) && allAmong members others
      | _ => false
  | map entries, other =>
      match other with
      | map others => decide (entries.length = others.length) && sameEntries entries others
      | _ => false
  | knot _ place, other =>
      match other with
      | knot _ otherPlace => decide (place = otherPlace)
      | _ => false
  | value, other => sameScalar value other

def sameItems : List Value → List Value → Bool
  | [], [] => true
  | item :: rest, other :: others => item.same other && sameItems rest others
  | _, _ => false

def allAmong : List Value → List Value → Bool
  | [], _ => true
  | member :: rest, others => (others.any fun other => member.same other) && allAmong rest others

/-- Whether each entry of one mapping is also one of the other. -/
def sameEntries : List (Value × Value) → List (Value × Value) → Bool
  | [], _ => true
  | (key, value) :: rest, others =>
      (others.any fun other => key.same other.1 && value.same other.2) && sameEntries rest others

end

/-- Whether two values are equal. The undefined number equals nothing. -/
def equals : Value → Value → Bool
  | undefined _, _ => false
  | value, other => value.same other

/-! ## Mappings -/

def isKey : Value → Bool
  | tuple items => areKeys items
  | list _ => false
  | set _ => false
  | map _ => false
  | knot _ _ => false
  | again _ => false
  | _ => true
where
  /-- Whether all items of a list can be keys. -/
  areKeys : List Value → Bool
    | [] => true
    | item :: rest => item.isKey && areKeys rest

/-- Writes an entry among the entries of a mapping: an equal key keeps its place. -/
def putEntry {α : Type} (key : Value) (value : α) : List (Value × α) → List (Value × α)
  | [] => [(key, value)]
  | (other, current) :: rest =>
      if other.same key then (other, value) :: rest
      else (other, current) :: putEntry key value rest

/-- The entries that remain when some are written from first to last: a repeated
key keeps its first place and takes its last value. -/
def distinctEntries {α : Type} (entries : List (Value × α)) : List (Value × α) :=
  entries.foldl (fun written entry => putEntry entry.1 entry.2 written) []

def ofEntries (entries : List (Value × Value)) : Value :=
  map (distinctEntries entries)

def isText (name : String) : Value → Bool
  | text s => decide (s = name)
  | _ => false

/-- The value under a textual key among the entries of a mapping. -/
def fieldIn? (name : String) : List (Value × Value) → Option Value
  | [] => none
  | (key, value) :: rest => if key.isText name then some value else fieldIn? name rest

example : same (list [bool true, int 2]) (list [float 1.0, float 2.0]) = true := by
  decide +kernel

end Value

end RoutingPlane
