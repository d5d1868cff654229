/-!
Bytes written in base sixty-four. Four digits stand for three bytes; characters
that are no digits are passed over, and equals signs fill up the last group.
-/

namespace RoutingPlane.Text.Base64

def digit? (c : Char) : Option Nat :=
  if 'A' ≤ c ∧ c ≤ 'Z' then some (c.toNat - 65)
  else if 'a' ≤ c ∧ c ≤ 'z' then some (c.toNat - 71)
  else if c.isDigit then some (c.toNat + 4)
  else if c = '+' then some 62
  else if c = '/' then some 63
  else none

/-- The byte that a digit completes after others of its group, if any. -/
def completed (group : List Nat) (digit : Nat) : List UInt8 :=
  match group with
  | [first] => [UInt8.ofNat (first * 4 + digit / 16)]
  | [_, second] => [UInt8.ofNat (second % 16 * 16 + digit / 4)]
  | [_, _, third] => [UInt8.ofNat (third % 4 * 64 + digit)]
  | _ => []

/-- The digits of a group after a further one; a full group is left behind. -/
def extended (group : List Nat) (digit : Nat) : List Nat :=
  if group.length = 3 then [] else group ++ [digit]

/-- Reads bytes after some digits of a group, the last of which are followed by
some signs that fill it up. A group must be complete or filled up. -/
def decodeAfter (group : List Nat) (fill : Nat) : List Char → Option (List UInt8)
  | [] => if group.isEmpty then some [] else none
  | c :: rest =>
      if c = '=' then
        if group.length < 2 then decodeAfter group fill rest
        else if 4 ≤ group.length + fill + 1 then some []
        else decodeAfter group (fill + 1) rest
      else
        match digit? c with
        | some digit =>
            (decodeAfter (extended group digit) 0 rest).map (completed group digit ++ ·)
        | none => decodeAfter group fill rest

def decode? (text : List Char) : Option (List UInt8) :=
  decodeAfter [] 0 text

example : decode? "aGVs bG8=".toList = some [104, 101, 108, 108, 111] ∧
    decode? "aGVsbG".toList = none ∧ decode? "aGVsbG8=x".toList = decode? "aGVsbG8=".toList ∧
    decode? "=".toList = some [] ∧ decode? "a".toList = none := by
  decide +kernel

end RoutingPlane.Text.Base64
