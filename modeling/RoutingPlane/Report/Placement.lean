import RoutingPlane.Fault
import RoutingPlane.Text.Split

/-!
Placing a report among files. The directories above a report are made where
they are missing; a file in their place, or a directory in the place of the
report, makes this impossible.
-/

namespace RoutingPlane

abbrev FilePath := List String

namespace FilePath

/-- The parts of a written path. Empty parts and those that stay in place do
not count. -/
def ofText (text : String) : FilePath :=
  ((Text.split '/' text.toList).filter fun part => !part.isEmpty && part != ['.']).map String.ofList

def text (path : FilePath) : String :=
  if path.isEmpty then "." else String.intercalate "/" path

def maxPartSize : Nat := 255

def maxPathSize : Nat := 4095

/-- The place that one step leads to. Steps up from the outermost directory lead
outside. -/
def step (place : FilePath) (part : String) : FilePath :=
  if part = ".." then
    if place.getLast?.all (· = "..") then place ++ [".."] else place.dropLast
  else place ++ [part]

def isOutside (place : FilePath) : Bool :=
  place.head? = some ".."

/-- Whether a place is a directory because a file lies below it. -/
def isAbove (place file : FilePath) : Bool :=
  place.isPrefixOf file && decide (place ≠ file)

/-- Whether a file system can hold a character. Of the halves of pairs it holds
those that stand for single bytes. -/
def isStorable (c : Char) : Bool :=
  let code := Text.codeOf c
  !Text.isHalf c || (decide (0xDC80 ≤ code) && decide (code ≤ 0xDCFF))

def storedSize (text : String) : Nat :=
  text.toList.foldl (fun size c => size + if Text.isHalf c then 1 else c.utf8Size) 0

/-- Whether a part of a path is too long for a file system. -/
def isTooLong (part : String) : Bool :=
  decide (maxPartSize < storedSize part)

/-- Goes down a path from the last of some directories, the last one first, making
directories; it fails at a file. -/
def descend? (files : List FilePath) (made : List FilePath) : FilePath → Option (List FilePath)
  | [] => some made
  | part :: rest =>
      let next := step (made.head?.getD []) part
      if next ∈ files || isTooLong part then none else descend? files (next :: made) rest

/-- Fails if no file system can hold a path: a character has no bytes, or is the one
that ends texts. -/
def checkStorable (path : FilePath) : Except ReportFault Unit := do
  if path.any fun part => !part.toList.all isStorable then throw .halfText
  if path.any fun part => part.toList.contains '\x00' then throw .impossiblePath

/-- The place where a file can be written, given the directories on the way. -/
def place? (files made : List FilePath) (name : String) : Option FilePath :=
  let place := made.head?.getD [] ++ [name]
  if name = ".." || isTooLong name || made.contains place ||
      files.any fun file => isAbove place file then none
  else some place

/-- The files in the outermost directory after a text was written to one. The
directories on the way are made first. -/
def write (files : List FilePath) (path : FilePath) (text : String) :
    Except ReportFault (List FilePath) := do
  let unwritable := ReportFault.unwritable path.text
  checkStorable path.dropLast
  match descend? files [] path.dropLast, path.getLast? with
  | some made, some name =>
      checkStorable [name]
      if maxPathSize < storedSize path.text then throw unwritable
      match place? files made name with
      | some place =>
          if Text.holdsHalf text then throw .halfText
          return if place ∈ files || isOutside place then files else files ++ [place]
      | none => throw unwritable
  | _, _ => throw unwritable

example : (write [] ["x", "y", "..", "..", "x"] "").toOption = none ∧
    (write [["q"]] ["a", "b", "..", "..", "c"] "").toOption = some [["q"], ["c"]] := by
  decide +kernel

end FilePath

end RoutingPlane
