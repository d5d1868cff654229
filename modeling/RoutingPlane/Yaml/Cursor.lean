/-!
Places in a document text: what follows a place, and the line and column in
which it lies.
-/

namespace RoutingPlane.Yaml

structure Cursor where
  /-- The characters that follow. -/
  rest : List Char
  /-- The number of characters that follow. -/
  left : Nat := rest.length
  index : Nat := 0
  line : Nat := 0
  column : Nat := 0

def isBreak (c : Char) : Bool :=
  c = '\n' || c.toNat = 0x85 || c.toNat = 0x2028 || c.toNat = 0x2029

def isSpaceOrTab (c : Char) : Bool :=
  c = ' ' || c = '\t'

/-- Whether a character may stand in the name of an anchor. -/
def isWordChar (c : Char) : Bool :=
  c.isAlphanum || c = '-' || c = '_'

namespace Cursor

def peek? (cursor : Cursor) : Option Char :=
  cursor.rest.head?

def peekAt? (cursor : Cursor) (distance : Nat) : Option Char :=
  cursor.rest[distance]?

def startsWith (cursor : Cursor) (test : Char → Bool) : Bool :=
  cursor.peek?.any test

def isAt (cursor : Cursor) (c : Char) : Bool :=
  cursor.peek? == some c

/-- The place after the next character. A byte order mark takes no column. -/
def advance (cursor : Cursor) : Cursor :=
  match cursor.rest with
  | [] => cursor
  | c :: rest =>
      { rest
        left := cursor.left - 1
        index := cursor.index + 1
        line := if isBreak c then cursor.line + 1 else cursor.line
        column :=
          if isBreak c then 0
          else if c.toNat = 0xFEFF then cursor.column
          else cursor.column + 1 }

def skip (cursor : Cursor) : Nat → Cursor
  | 0 => cursor
  | count + 1 => cursor.advance.skip count

/-- Reads characters as long as their places pass a test, at most the given
number of them. -/
def readWithin (test : Cursor → Bool) : Nat → Cursor → List Char × Cursor
  | 0, cursor => ([], cursor)
  | count + 1, cursor =>
      match cursor.peek? with
      | none => ([], cursor)
      | some c =>
          if test cursor then
            let (more, after) := readWithin test count cursor.advance
            (c :: more, after)
          else ([], cursor)

def readWhile (cursor : Cursor) (test : Cursor → Bool) : List Char × Cursor :=
  readWithin test cursor.left cursor

def readChars (cursor : Cursor) (test : Char → Bool) : List Char × Cursor :=
  cursor.readWhile fun place => place.startsWith test

def skipChars (cursor : Cursor) (test : Char → Bool) : Cursor :=
  (cursor.readChars test).2

def atLineEnd (cursor : Cursor) : Bool :=
  cursor.rest.isEmpty || cursor.startsWith isBreak

/-- Whether nothing, a blank or a line break comes after a number of characters. -/
def blankAt (cursor : Cursor) (distance : Nat) : Bool :=
  match cursor.peekAt? distance with
  | none => true
  | some c => isSpaceOrTab c || isBreak c

/-- Reads a line break, if one follows. All common ones count as the same. -/
def readBreak (cursor : Cursor) : List Char × Cursor :=
  match cursor.peek? with
  | none => ([], cursor)
  | some c =>
      if c = '\n' || c.toNat = 0x85 then (['\n'], cursor.advance)
      else if isBreak c then ([c], cursor.advance)
      else ([], cursor)

/-- Whether a line with three marks follows, which separates documents. -/
def atSeparator (cursor : Cursor) (mark : Char) : Bool :=
  cursor.rest.take 3 == [mark, mark, mark] && cursor.blankAt 3

def atAnySeparator (cursor : Cursor) : Bool :=
  cursor.atSeparator '-' || cursor.atSeparator '.'

def skipComment (cursor : Cursor) : Cursor :=
  let shown := cursor.skipChars (· = ' ')
  if shown.isAt '#' then shown.skipChars fun c => !isBreak c else shown

/-- The place after the rest of a line that holds nothing but a comment. -/
def skipBlankLine? (cursor : Cursor) : Option Cursor :=
  let shown := cursor.skipComment
  if shown.atLineEnd then some shown.readBreak.2 else none

end Cursor

end RoutingPlane.Yaml
