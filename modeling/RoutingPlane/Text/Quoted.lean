import RoutingPlane.Text.Half
import RoutingPlane.Text.Printable

/-!
Quoted text, as values are shown inside messages: between single quotes, or
between double quotes if the text holds a single quote and no double one.
Characters that cannot be shown, and halves of pairs, are written by their code. Bytes are shown in
the same way, those of printable characters as these.
-/

namespace RoutingPlane.Text

/-- The lower case hexadecimal digits of a number, filled up with zeros. -/
def hexDigits (width n : Nat) : List Char :=
  let shown := Nat.toDigits 16 n
  List.replicate (width - shown.length) '0' ++ shown

def quotedChar (quote c : Char) : List Char :=
  if c = quote || c = '\\' then ['\\', c]
  else if c = '\t' then ['\\', 't']
  else if c = '\n' then ['\\', 'n']
  else if c = '\r' then ['\\', 'r']
  else if isPrintable c then [c]
  else
    let code := codeOf c
    if code < 256 then '\\' :: 'x' :: hexDigits 2 code
    else if code < 65536 then '\\' :: 'u' :: hexDigits 4 code
    else '\\' :: 'U' :: hexDigits 8 code

def quoteFor (text : List Char) : Char :=
  if text.contains '\'' && !text.contains '"' then '"' else '\''

def quoted (text : String) : String :=
  let chars := text.toList
  let quote := quoteFor chars
  String.ofList (quote :: (chars.flatMap (quotedChar quote) ++ [quote]))

def quotedByte (quote : Char) (byte : UInt8) : List Char :=
  let c := Char.ofNat byte.toNat
  if c = quote || c = '\\' then ['\\', c]
  else if c = '\t' then ['\\', 't']
  else if c = '\n' then ['\\', 'n']
  else if c = '\r' then ['\\', 'r']
  else if ' ' ≤ c ∧ c ≤ '~' then [c]
  else '\\' :: 'x' :: hexDigits 2 byte.toNat

def quotedBytes (content : List UInt8) : String :=
  let quote := quoteFor (content.map fun byte => Char.ofNat byte.toNat)
  String.ofList ('b' :: quote :: (content.flatMap (quotedByte quote) ++ [quote]))

example : quotedBytes [10, 0, 104, 39] = "b\"\\n\\x00h'\"" := by decide +kernel

example : quoted (String.singleton (charOfCode 0xD83D)) = "'\\ud83d'" := by decide +kernel

example : quoted "a'b" = "\"a'b\"" ∧ quoted "a\n'\"" = "'a\\n\\'\"'" := by decide +kernel

end RoutingPlane.Text
