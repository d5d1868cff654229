import RoutingPlane.Snapshot
import RoutingPlane.Yaml.Document

/-!
Snapshots in files: the text of a file is a document whose value describes a
network. A carriage return alone or before a line feed ends a line as a line feed
does.
-/

namespace RoutingPlane

/-- Line ends of all kinds written as line feeds. -/
def Text.unifyLineEnds : List Char → List Char
  | '\r' :: '\n' :: rest => '\n' :: unifyLineEnds rest
  | '\r' :: rest => '\n' :: unifyLineEnds rest
  | c :: rest => c :: unifyLineEnds rest
  | [] => []

def Yaml.documentValue (text : String) : Except DocumentFault Value := do
  match ← Composition.ofText (Text.unifyLineEnds text.toList) with
  | none => return .null
  | some composition => composition.value

/-- Reads a snapshot from the text of the file at a path, or from nothing if
there is no such file. A document that counts as false describes an empty
network. -/
def Snapshot.load (path : String) : Option String → Except Fault Snapshot
  | none => .error (.snapshot (.missingFile path))
  | some text =>
      if Text.holdsHalf text then .error (.document .halfText)
      else
        match Yaml.documentValue text with
        | .error .malformed => .error (.snapshot (.malformedFile path))
        | .error fault => .error (.document fault)
        | .ok value => read path (if value.truthy then value else .map [])

end RoutingPlane
