import RoutingPlane.Decimal.Numeral
import RoutingPlane.Yaml.ScalarText

/-!
The tokens of a document. Indentation opens and closes blocks; a key in front
of a colon is recognised only when the colon is met, and its token is then
entered in front of it. Where no token can be read, the tokens before that place
that are certain are followed by one that tells why.
-/

namespace RoutingPlane.Yaml

inductive Token where
  | versionDirective (major : Nat)
  | tagDirective (handle start : String)
  | otherDirective
  | documentStart
  | documentEnd
  | blockSequenceStart
  | blockMappingStart
  | blockEnd
  | flowSequenceStart
  | flowSequenceEnd
  | flowMappingStart
  | flowMappingEnd
  | blockEntry
  | flowEntry
  | key
  | value
  | aliasTo (name : String)
  | anchor (name : String)
  | tag (handle : Option String) (ending : String)
  | scalar (text : String) (plain : Bool)
  /-- The end of what can be read. -/
  | unreadable (fault : DocumentFault)
  deriving DecidableEq, Repr

/-- Whether a character may stand in a document; the others are foreign. -/
def isDocumentChar (c : Char) : Bool :=
  let code := c.toNat
  code = 9 || code = 10 || code = 13 || (32 ≤ code && code ≤ 126) || code = 0x85 ||
    (0xA0 ≤ code && code ≤ 0xD7FF) || (0xE000 ≤ code && code ≤ 0xFFFD) || 0x10000 ≤ code

/-- A place at which a key may have begun. -/
structure KeyStart where
  /-- The number of tokens before the key. -/
  tokens : Nat
  /-- Whether nothing but a key can stand here. -/
  required : Bool
  index : Nat
  line : Nat
  column : Nat

structure Lexer where
  cursor : Cursor
  /-- Whether the last character of the text is foreign, and the only one. -/
  endsForeign : Bool := false
  /-- The tokens read so far, the last one first. -/
  tokens : List Token := []
  /-- The number of tokens read so far. -/
  count : Nat := 0
  /-- The number of open brackets. -/
  flowLevel : Nat := 0
  /-- The column of the innermost block, or one before the first column. -/
  indent : Int := -1
  /-- The columns of the blocks around it. -/
  indents : List Int := []
  /-- Whether a key may begin at the next token. -/
  keyAllowed : Bool := true
  /-- The possible starts of keys by the number of open brackets. -/
  keyStarts : List (Nat × KeyStart) := []

namespace Lexer

def column (lexer : Lexer) : Int :=
  lexer.cursor.column

def inFlow (lexer : Lexer) : Bool :=
  decide (0 < lexer.flowLevel)

def push (lexer : Lexer) (token : Token) : Lexer :=
  { lexer with tokens := token :: lexer.tokens, count := lexer.count + 1 }

def pushMark (lexer : Lexer) (token : Token) : Lexer :=
  { lexer.push token with cursor := lexer.cursor.advance }

def insert (lexer : Lexer) (before : Nat) (token : Token) : Lexer :=
  let later := lexer.count - before
  { lexer with
    tokens := lexer.tokens.take later ++ token :: lexer.tokens.drop later
    count := lexer.count + 1 }

/-- Forgets the possible start of a key at the present level. This fails if a
key had to stand there. -/
def dropKeyStart? (lexer : Lexer) : Option Lexer :=
  if lexer.keyStarts.any fun entry => entry.1 = lexer.flowLevel && entry.2.required then none
  else some { lexer with
    keyStarts := lexer.keyStarts.filter fun entry => entry.1 ≠ lexer.flowLevel }

/-- Remembers that a key may begin at the next token. -/
def noteKeyStart? (lexer : Lexer) : Option Lexer :=
  if lexer.keyAllowed then do
    let dropped ← lexer.dropKeyStart?
    let start : KeyStart := {
      tokens := lexer.count
      required := !lexer.inFlow && decide (lexer.indent = lexer.column)
      index := lexer.cursor.index, line := lexer.cursor.line, column := lexer.cursor.column }
    return { dropped with keyStarts := (lexer.flowLevel, start) :: dropped.keyStarts }
  else some lexer

/-- The greatest distance between the start of a key and its colon. -/
def maxKeyLength : Nat := 1024

/-- Whether a key that began at a place cannot end at the present one. -/
def isStale (lexer : Lexer) (start : KeyStart) : Bool :=
  decide (start.line ≠ lexer.cursor.line) ||
    decide (maxKeyLength < lexer.cursor.index - start.index)

/-- Forgets the starts of keys that cannot end here any more. -/
def dropStale? (lexer : Lexer) : Option Lexer :=
  if lexer.keyStarts.any fun entry => entry.2.required && lexer.isStale entry.2 then none
  else some { lexer with
    keyStarts := lexer.keyStarts.filter fun entry => !lexer.isStale entry.2 }

/-- Closes the blocks with given columns that lie to the right of a column. -/
def closeBlocks (column : Int) : List Int → Lexer → Lexer
  | [], lexer => lexer
  | outer :: indents, lexer =>
      if column < lexer.indent then
        closeBlocks column indents { lexer.push .blockEnd with indent := outer, indents }
      else lexer

/-- Closes the blocks that lie to the right of a column, unless inside brackets. -/
def unwind (lexer : Lexer) (column : Int) : Lexer :=
  if lexer.inFlow then lexer else closeBlocks column lexer.indents lexer

/-- Opens a block at a column that lies to the right of the innermost one;
whether it did. -/
def openBlock (lexer : Lexer) (column : Int) : Bool × Lexer :=
  if lexer.indent < column then
    (true, { lexer with indent := column, indents := lexer.indent :: lexer.indents })
  else (false, lexer)

def openBlockWith (lexer : Lexer) (token : Token) : Lexer :=
  let (opened, inside) := lexer.openBlock lexer.column
  if opened then inside.push token else inside

/-- Skips blanks, comments and line breaks. A key may begin in a new line. -/
def skipBlanks : Nat → Lexer → Lexer
  | 0, lexer => lexer
  | count + 1, lexer =>
      let cursor := lexer.cursor.skipComment
      if cursor.startsWith isBreak then
        skipBlanks count { lexer with
          cursor := cursor.readBreak.2
          keyAllowed := lexer.keyAllowed || !lexer.inFlow }
      else { lexer with cursor }

/-! ## Directives, anchors and tags -/

def readWord? (cursor : Cursor) : Option (List Char × Cursor) :=
  let (word, after) := cursor.readChars isWordChar
  if word.isEmpty then none else some (word, after)

def readVersionNumber (cursor : Cursor) : Except DocumentFault (Nat × Cursor) :=
  let (digits, after) := cursor.readChars Char.isDigit
  if digits.isEmpty || after.startsWith (fun c => !isDocumentChar c) then .error .malformed
  else if Decimal.maxDigits < digits.length then .error .noNumber
  else .ok (Decimal.digitsValue 0 digits, after)

def atGap (cursor : Cursor) : Bool :=
  cursor.isAt ' ' || cursor.atLineEnd

/-- Reads the handle of a tag: an exclamation mark, possibly with a word and a
second one behind it. -/
def readHandle? (cursor : Cursor) : Option (List Char × Cursor) :=
  if !cursor.isAt '!' then none
  else
    let (word, after) := cursor.advance.readChars isWordChar
    if after.isAt '!' then some ('!' :: word ++ ['!'], after.advance)
    else if word.isEmpty && after.isAt ' ' then some (['!'], after)
    else none

def isTagChar (c : Char) : Bool :=
  c.isAlphanum || "-;/?:@&=+$,_.!~*'()[]".toList.contains c

/-- Reads bytes, each of which is written as a percent sign and two digits. -/
def readByteCodes? : Nat → Cursor → Option (List UInt8 × Cursor)
  | 0, cursor => some ([], cursor)
  | count + 1, cursor =>
      if cursor.isAt '%' then do
        let digits := cursor.advance.rest.take 2
        let code ← hexValue? digits
        if digits.length ≠ 2 then none
        let (more, last) ← readByteCodes? count (cursor.skip 3)
        return (UInt8.ofNat code :: more, last)
      else some ([], cursor)

/-- Reads the parts of the ending of a tag: characters that stand for themselves,
and bytes that encode others. -/
def readTagParts? : Nat → Cursor → Option (List Char × Cursor)
  | 0, _ => none
  | count + 1, cursor =>
      if cursor.isAt '%' then do
        let (codes, after) ← readByteCodes? cursor.left cursor
        let part ← String.fromUTF8? ⟨codes.toArray⟩
        let (more, last) ← readTagParts? count after
        return (part.toList ++ more, last)
      else
        let (part, after) := cursor.readChars isTagChar
        if part.isEmpty then some ([], cursor)
        else do
          let (more, last) ← readTagParts? count after
          return (part ++ more, last)

def readTagText? (cursor : Cursor) : Option (List Char × Cursor) := do
  let (ending, after) ← readTagParts? (cursor.left + 1) cursor
  if ending.isEmpty then none else some (ending, after)

def readVersion (cursor : Cursor) : Except DocumentFault (Token × Cursor) := do
  let (major, point) ← readVersionNumber (cursor.skipChars (· = ' '))
  if !point.isAt '.' then .error .malformed
  let (_, last) ← readVersionNumber point.advance
  if !atGap last then .error .malformed
  return (.versionDirective major, ← last.skipBlankLine?)

def readTagDirective? (cursor : Cursor) : Option (Token × Cursor) := do
  let (handle, gap) ← readHandle? (cursor.skipChars (· = ' '))
  if !gap.isAt ' ' then none
  let (start, last) ← readTagText? (gap.skipChars (· = ' '))
  if !atGap last then none
  return (.tagDirective (String.ofList handle) (String.ofList start), ← last.skipBlankLine?)

def readDirective (cursor : Cursor) : Except DocumentFault (Token × Cursor) := do
  let (name, after) ← readWord? cursor.advance
  if !atGap after then .error .malformed
  if name = "YAML".toList then readVersion after
  else if name = "TAG".toList then readTagDirective? after
  else return (.otherDirective, ← (after.skipChars fun c => !isBreak c).skipBlankLine?)

def readAnchorName? (cursor : Cursor) : Option (String × Cursor) := do
  let (name, after) ← readWord? cursor.advance
  if after.blankAt 0 || after.startsWith fun c => "?:,]\x7d%@\x60".toList.contains c then
    return (String.ofList name, after)
  else none

/-- Whether an exclamation mark occurs before the next blank. -/
def hasHandle (cursor : Cursor) : Bool :=
  (cursor.advance.readChars fun c => c ≠ ' ' && !isBreak c).1.contains '!'

def readWholeTag? (cursor : Cursor) : Option (Token × Cursor) := do
  let (ending, last) ← readTagText? (cursor.skip 2)
  if last.isAt '>' then return (.tag none (String.ofList ending), last.advance) else none

def readShortTag? (cursor : Cursor) : Option (Token × Cursor) := do
  let (handle, start) ←
    if hasHandle cursor then readHandle? cursor else some (['!'], cursor.advance)
  let (ending, last) ← readTagText? start
  return (.tag (some (String.ofList handle)) (String.ofList ending), last)

def readTag? (cursor : Cursor) : Option (Token × Cursor) := do
  let (token, after) ←
    if cursor.peekAt? 1 == some '<' then readWholeTag? cursor
    else if cursor.blankAt 1 then some (.tag none "!", cursor.advance)
    else readShortTag? cursor
  if atGap after then return (token, after) else none

/-! ## Single tokens -/

/-- Reads a mark between documents or a directive, before which all blocks end. -/
def betweenDocuments? (lexer : Lexer) (token : Token) (after : Cursor) : Option Lexer := do
  let outside ← (lexer.unwind (-1)).dropKeyStart?
  return { outside.push token with cursor := after, keyAllowed := false }

def openFlow? (lexer : Lexer) (token : Token) : Option Lexer := do
  let noted ← lexer.noteKeyStart?
  return { noted.pushMark token with flowLevel := lexer.flowLevel + 1, keyAllowed := true }

def closeFlow? (lexer : Lexer) (token : Token) : Option Lexer := do
  let dropped ← lexer.dropKeyStart?
  return { dropped.pushMark token with flowLevel := lexer.flowLevel - 1, keyAllowed := false }

def blockEntry? (lexer : Lexer) : Option Lexer := do
  if !lexer.inFlow && !lexer.keyAllowed then none
  let inside := if lexer.inFlow then lexer else lexer.openBlockWith .blockSequenceStart
  let dropped ← inside.dropKeyStart?
  return { dropped.pushMark .blockEntry with keyAllowed := true }

def key? (lexer : Lexer) : Option Lexer := do
  if !lexer.inFlow && !lexer.keyAllowed then none
  let inside := if lexer.inFlow then lexer else lexer.openBlockWith .blockMappingStart
  let dropped ← inside.dropKeyStart?
  return { dropped.pushMark .key with keyAllowed := !lexer.inFlow }

/-- Reads a colon: it ends the key that may have begun at the present level, if
there is one. -/
def value? (lexer : Lexer) : Option Lexer := do
  match lexer.keyStarts.find? fun entry => entry.1 = lexer.flowLevel with
  | some (_, start) =>
      let dropped := { lexer with
        keyStarts := lexer.keyStarts.filter fun entry => entry.1 ≠ lexer.flowLevel }
      let keyed := dropped.insert start.tokens .key
      let inside :=
        if lexer.inFlow then keyed
        else
          let (opened, block) := keyed.openBlock start.column
          if opened then block.insert start.tokens .blockMappingStart else block
      return { inside.pushMark .value with keyAllowed := false }
  | none =>
      if !lexer.inFlow && !lexer.keyAllowed then none
      let inside := if lexer.inFlow then lexer else lexer.openBlockWith .blockMappingStart
      let dropped ← inside.dropKeyStart?
      return { dropped.pushMark .value with keyAllowed := !lexer.inFlow }

def keyable? (lexer : Lexer) (token : Token) (after : Cursor) (keyAllowed : Bool) :
    Option Lexer := do
  let noted ← lexer.noteKeyStart?
  return { noted.push token with cursor := after, keyAllowed }

def blockScalar? (lexer : Lexer) (folded : Bool) : Option Lexer := do
  let dropped ← lexer.dropKeyStart?
  let (text, after) ← readBlock folded lexer.indent lexer.cursor
  return { dropped.push (.scalar (String.ofList text) false) with
    cursor := after, keyAllowed := true }

def startsPlain (inFlow : Bool) (place : Cursor) : Bool :=
  match place.peek? with
  | none => false
  | some c =>
      !(isSpaceOrTab c || isBreak c || "-?:,[]\x7b\x7d#&*!|>'\"%@\x60".toList.contains c) ||
        (!place.blankAt 1 && (c = '-' || (!inFlow && (c = '?' || c = ':'))))

def token (lexer : Lexer) (c : Char) : Except DocumentFault Lexer :=
  let cursor := lexer.cursor
  let atStart := decide (cursor.column = 0)
  if c = '%' && atStart then do
    let (token, after) ← readDirective cursor
    lexer.betweenDocuments? token after
  else if atStart && cursor.atSeparator '-' then
    lexer.betweenDocuments? .documentStart (cursor.skip 3)
  else if atStart && cursor.atSeparator '.' then
    lexer.betweenDocuments? .documentEnd (cursor.skip 3)
  else if c = '[' then lexer.openFlow? .flowSequenceStart
  else if c = '\x7b' then lexer.openFlow? .flowMappingStart
  else if c = ']' then lexer.closeFlow? .flowSequenceEnd
  else if c = '\x7d' then lexer.closeFlow? .flowMappingEnd
  else if c = ',' then do
    let dropped ← lexer.dropKeyStart?
    return { dropped.pushMark .flowEntry with keyAllowed := true }
  else if c = '-' && cursor.blankAt 1 then lexer.blockEntry?
  else if c = '?' && (lexer.inFlow || cursor.blankAt 1) then lexer.key?
  else if c = ':' && (lexer.inFlow || cursor.blankAt 1) then lexer.value?
  else if c = '*' then do
    let (name, after) ← readAnchorName? cursor
    lexer.keyable? (.aliasTo name) after false
  else if c = '&' then do
    let (name, after) ← readAnchorName? cursor
    lexer.keyable? (.anchor name) after false
  else if c = '!' then do
    let (token, after) ← readTag? cursor
    lexer.keyable? token after false
  else if c = '|' && !lexer.inFlow then lexer.blockScalar? false
  else if c = '>' && !lexer.inFlow then lexer.blockScalar? true
  else if c = '\'' || c = '"' then do
    let (text, after) ← readQuoted (decide (c = '"')) cursor
    lexer.keyable? (.scalar (String.ofList text) false) after false
  else if startsPlain lexer.inFlow cursor then
    let (text, after, lineEnded) := readPlain lexer.inFlow (lexer.indent + 1) cursor
    lexer.keyable? (.scalar (String.ofList text) true) after lineEnded
  else .error .malformed

/-- The state after the next token, and whether the text has ended. -/
def next (lexer : Lexer) : Except DocumentFault (Lexer × Bool) := do
  let fresh ← (skipBlanks (lexer.cursor.left + 1) lexer).dropStale?
  let placed := fresh.unwind fresh.column
  match placed.cursor.peek? with
  | none => return (← (placed.unwind (-1)).dropKeyStart?, true)
  | some c => return (← placed.token c, false)

/-- The tokens that are certain, the first one first. One that may begin a key is
not. -/
def certain (lexer : Lexer) : List Token :=
  let waiting := lexer.keyStarts.filter fun entry => !lexer.isStale entry.2
  lexer.tokens.reverse.take
    ((waiting.map fun entry => entry.2.tokens).foldl min lexer.count)

def meetsForeign (lexer : Lexer) : Bool :=
  lexer.endsForeign && decide (lexer.cursor.left ≤ 1)

def run : Nat → Lexer → List Token
  | 0, lexer => lexer.certain ++ [.unreadable .malformed]
  | count + 1, lexer =>
      match lexer.next with
      | .ok (after, ended) =>
          if after.meetsForeign then lexer.certain ++ [.unreadable .malformed]
          else if ended then after.tokens.reverse
          else run count after
      | .error fault => lexer.certain ++ [.unreadable fault]

end Lexer

/-! ## Whole texts -/

def pieceLength : Nat := 4096

/-- The start of the piece in which a place lies. The first piece is twice as long
as the others. -/
def pieceStart (index : Nat) : Nat :=
  if index < 2 * pieceLength then 0 else index - index % pieceLength

/-- The tokens of a document text. A piece of it is checked as soon as its first
character is looked at, so from a piece that holds a foreign character nothing else
is read. -/
def tokensOf (text : List Char) : List Token :=
  let foreign := text.findIdx? fun c => !isDocumentChar c
  let shown :=
    match foreign with
    | none => text
    | some index => text.take (pieceStart index) ++ (text.drop index).take 1
  let start : Cursor := { rest := shown }
  let cursor := if start.startsWith (·.toNat = 0xFEFF) then start.advance else start
  Lexer.run (shown.length + 1) { cursor, endsForeign := foreign.isSome }

end RoutingPlane.Yaml
