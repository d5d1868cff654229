import RoutingPlane.Text.Half
import RoutingPlane.Yaml.Cursor
import RoutingPlane.Yaml.Fault

/-!
The text of scalars in a document: plain, between quotes and as a block of
lines. A single line break inside a plain or quoted scalar stands for a space,
and of several ones the first does not count.
-/

namespace RoutingPlane.Yaml

/-- The text for a line break and the empty lines after it. -/
def foldedBreaks (first breaks : List Char) : List Char :=
  (if first ≠ ['\n'] then first else if breaks.isEmpty then [' '] else []) ++ breaks

/-! ## Plain scalars -/

/-- Whether a place belongs to a plain scalar: it ends at a blank, at a colon
before a blank, and inside brackets at any mark that has a meaning there. -/
def inPlain (inFlow : Bool) (place : Cursor) : Bool :=
  match place.peek? with
  | none => false
  | some c =>
      !(isSpaceOrTab c || isBreak c) &&
        !(c = ':' && (place.blankAt 1 ||
          (inFlow && (place.peekAt? 1).any fun d => ",[]\x7b\x7d".toList.contains d))) &&
        !(inFlow && ",?[]\x7b\x7d".toList.contains c)

/-- Reads the line breaks after the first one of a plain scalar, and the blanks
among them. Nothing is read if a separator of documents follows. -/
def plainBreaks : Nat → Cursor → Option (List Char) × Cursor
  | 0, cursor => (some [], cursor)
  | count + 1, cursor =>
      if cursor.isAt ' ' then plainBreaks count cursor.advance
      else if cursor.startsWith isBreak then
        let (first, after) := cursor.readBreak
        if after.atAnySeparator then (none, after)
        else
          let (more, last) := plainBreaks count after
          (more.map (first ++ ·), last)
      else (some [], cursor)

/-- Reads the blanks inside or after a plain scalar; whether a line ended. -/
def plainSpaces (cursor : Cursor) : List Char × Cursor × Bool :=
  let (blanks, after) := cursor.readChars (· = ' ')
  if after.startsWith isBreak then
    let (first, next) := after.readBreak
    if next.atAnySeparator then ([], next, true)
    else
      match plainBreaks next.left next with
      | (none, last) => ([], last, true)
      | (some breaks, last) => (foldedBreaks first breaks, last, true)
  else (blanks, after, false)

/-- Reads the parts of a plain scalar; whether a line ended after the last one. -/
def plainParts (inFlow : Bool) (indent : Int) :
    Nat → List Char → Cursor → Bool → List Char × Cursor × Bool
  | 0, _, cursor, lineEnded => ([], cursor, lineEnded)
  | count + 1, spaces, cursor, lineEnded =>
      if cursor.isAt '#' then ([], cursor, lineEnded)
      else
        let (part, after) := cursor.readWhile (inPlain inFlow)
        if part.isEmpty then ([], cursor, lineEnded)
        else
          let (blanks, next, ended) := plainSpaces after
          if blanks.isEmpty || next.isAt '#' ||
              (!inFlow && decide ((next.column : Int) < indent)) then
            (spaces ++ part, next, ended)
          else
            let (more, last, lastEnded) := plainParts inFlow indent count blanks next ended
            (spaces ++ part ++ more, last, lastEnded)

/-- Reads a plain scalar; whether a line ended after it. -/
def readPlain (inFlow : Bool) (indent : Int) (cursor : Cursor) : List Char × Cursor × Bool :=
  plainParts inFlow indent (cursor.left + 1) [] cursor false

/-! ## Quoted scalars -/

def escapes : List (Char × Nat) :=
  [('0', 0), ('a', 7), ('b', 8), ('t', 9), ('\t', 9), ('n', 10), ('v', 11), ('f', 12),
    ('r', 13), ('e', 27), (' ', 32), ('"', 34), ('\\', 92), ('/', 47), ('N', 0x85),
    ('_', 0xA0), ('L', 0x2028), ('P', 0x2029)]

/-- The number of hexadecimal digits after a mark for a code. -/
def codeLength? (c : Char) : Option Nat :=
  if c = 'x' then some 2 else if c = 'u' then some 4 else if c = 'U' then some 8 else none

def hexDigit? (c : Char) : Option Nat :=
  if c.isDigit then some (c.toNat - 48)
  else if 'a' ≤ c ∧ c ≤ 'f' then some (c.toNat - 87)
  else if 'A' ≤ c ∧ c ≤ 'F' then some (c.toNat - 55)
  else none

def hexValue? (digits : List Char) : Option Nat :=
  (digits.mapM hexDigit?).map fun values => values.foldl (fun sum value => 16 * sum + value) 0

def readCode? (cursor : Cursor) : Option (Nat × Cursor) := do
  let length ← codeLength? (← cursor.peek?)
  let digits := cursor.advance.rest.take length
  let code ← hexValue? digits
  if digits.length = length then return (code, cursor.skip (length + 1)) else none

/-- The character that a code stands for. Halves of pairs stay apart. -/
def ofCode (code : Nat) : Except DocumentFault Char :=
  if 0x7FFFFFFF < code then .error .hugeCode
  else if 0x10FFFF < code then .error .noCharacter
  else .ok (Text.charOfCode code)

/-- Reads line breaks and blanks inside a quoted scalar. A separator of
documents is refused. -/
def quotedBreaks : Nat → Cursor → Option (List Char × Cursor)
  | 0, _ => none
  | count + 1, cursor =>
      if cursor.atAnySeparator then none
      else
        let after := cursor.skipChars isSpaceOrTab
        if after.startsWith isBreak then do
          let (first, next) := after.readBreak
          let (more, last) ← quotedBreaks count next
          return (first ++ more, last)
        else some ([], after)

def readEscape (cursor : Cursor) : Except DocumentFault (List Char × Cursor) := do
  let c ← cursor.peek?
  match escapes.find? fun escape => escape.1 = c with
  | some escape => return ([Char.ofNat escape.2], cursor.advance)
  | none =>
      if isBreak c then quotedBreaks (cursor.left + 1) cursor.readBreak.2
      else do
        let (code, after) ← readCode? cursor
        return ([← ofCode code], after)

/-- Reads the inside of a quoted scalar up to the quote that ends it. -/
def quotedParts (double : Bool) : Nat → Cursor → Except DocumentFault (List Char × Cursor)
  | 0, _ => .error .malformed
  | count + 1, cursor => do
      let c ← cursor.peek?
      if !double && c = '\'' && cursor.peekAt? 1 == some '\'' then
        let (more, last) ← quotedParts double count (cursor.skip 2)
        return ('\'' :: more, last)
      else if c = (if double then '"' else '\'') then return ([], cursor.advance)
      else if double && c = '\\' then
        let (meant, after) ← readEscape cursor.advance
        let (more, last) ← quotedParts double count after
        return (meant ++ more, last)
      else if isSpaceOrTab c || isBreak c then
        let (blanks, after) := cursor.readChars isSpaceOrTab
        if after.startsWith isBreak then
          let (first, next) := after.readBreak
          let (breaks, inner) ← quotedBreaks (next.left + 1) next
          let (more, last) ← quotedParts double count inner
          return (foldedBreaks first breaks ++ more, last)
        else
          let (more, last) ← quotedParts double count after
          return (blanks ++ more, last)
      else
        let (more, last) ← quotedParts double count cursor.advance
        return (c :: more, last)

def readQuoted (double : Bool) (cursor : Cursor) : Except DocumentFault (List Char × Cursor) :=
  quotedParts double (cursor.left + 1) cursor.advance

/-! ## Block scalars -/

/-- What happens to the line breaks at the end of a block scalar. -/
inductive Chomping where
  | strip
  | clip
  | keep
  deriving DecidableEq, Repr

def readChomping (cursor : Cursor) : Option (Chomping × Cursor) :=
  match cursor.peek? with
  | some '+' => some (.keep, cursor.advance)
  | some '-' => some (.strip, cursor.advance)
  | _ => none

/-- Reads a number of columns: nothing if there is none, and a failure if it is
zero. -/
def readIncrement (cursor : Cursor) : Option (Option Nat × Cursor) :=
  match cursor.peek? with
  | some c =>
      if c = '0' then none
      else if c.isDigit then some (some (c.toNat - 48), cursor.advance)
      else some (none, cursor)
  | none => some (none, cursor)

def readBlockMarks (cursor : Cursor) : Option (Chomping × Option Nat × Cursor) := do
  match readChomping cursor with
  | some (chomping, after) =>
      let (increment, last) ← readIncrement after
      return (chomping, increment, last)
  | none =>
      let (increment, after) ← readIncrement cursor
      match increment, readChomping after with
      | some _, some (chomping, last) => return (chomping, increment, last)
      | _, _ => return (.clip, increment, after)

/-- Reads empty lines whose blanks stop at a column. -/
def blockBreaks (indent : Nat) : Nat → Cursor → List Char × Cursor
  | 0, cursor => ([], cursor)
  | count + 1, cursor =>
      let after := (cursor.readWhile fun place =>
        place.isAt ' ' && decide (place.column < indent)).2
      if after.startsWith isBreak then
        let (first, next) := after.readBreak
        let (more, last) := blockBreaks indent count next
        (first ++ more, last)
      else ([], after)

/-- Reads empty lines, and the greatest column that their blanks reach. -/
def blockIndentation : Nat → Nat → Cursor → List Char × Nat × Cursor
  | 0, greatest, cursor => ([], greatest, cursor)
  | count + 1, greatest, cursor =>
      if cursor.isAt ' ' then
        blockIndentation count (max greatest cursor.advance.column) cursor.advance
      else if cursor.startsWith isBreak then
        let (first, next) := cursor.readBreak
        let (more, indent, last) := blockIndentation count greatest next
        (first ++ more, indent, last)
      else ([], greatest, cursor)

/-- Reads the lines of a block scalar, given the line breaks before the next
one; the text, the last line break, the breaks after it and the place behind. -/
def blockLines (folded : Bool) (indent : Nat) :
    Nat → List Char → Cursor → List Char × List Char × List Char × Cursor
  | 0, breaks, cursor => ([], [], breaks, cursor)
  | count + 1, breaks, cursor =>
      if cursor.column = indent ∧ !cursor.rest.isEmpty then
        let startsDark := !cursor.startsWith isSpaceOrTab
        let (line, after) := cursor.readChars fun c => !isBreak c
        let (lineBreak, next) := after.readBreak
        let (more, start) := blockBreaks indent (next.left + 1) next
        if start.column = indent ∧ !start.rest.isEmpty then
          let joint :=
            if folded && lineBreak == ['\n'] && startsDark && !start.startsWith isSpaceOrTab then
              if more.isEmpty then [' '] else []
            else lineBreak
          let (text, lastBreak, lastBreaks, last) := blockLines folded indent count more start
          (breaks ++ line ++ joint ++ text, lastBreak, lastBreaks, last)
        else (breaks ++ line, lineBreak, more, start)
      else ([], [], breaks, cursor)

def readBlock (folded : Bool) (parentIndent : Int) (cursor : Cursor) :
    Option (List Char × Cursor) := do
  let (chomping, increment, header) ← readBlockMarks cursor.advance
  if !(header.atLineEnd || header.isAt ' ') then none
  let start ← header.skipBlankLine?
  let least := max 1 (parentIndent + 1).toNat
  let (breaks, indent, first) :=
    match increment with
    | some columns =>
        let indent := least + columns - 1
        let (breaks, first) := blockBreaks indent (start.left + 1) start
        (breaks, indent, first)
    | none =>
        let (breaks, greatest, first) := blockIndentation (start.left + 1) 0 start
        (breaks, max least greatest, first)
  let (text, lastBreak, lastBreaks, last) :=
    blockLines folded indent (first.left + 1) breaks first
  let tail :=
    match chomping with
    | .strip => []
    | .clip => lastBreak
    | .keep => lastBreak ++ lastBreaks
  return (text ++ tail, last)

end RoutingPlane.Yaml
