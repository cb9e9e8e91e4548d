import Mediation.Text.Hex

/-!
# UTF-8

Decoding of octets into characters by a machine that takes one octet at a time. It refuses an octet as soon as
no text can go on with it, and names the octets of the character that it could not complete.
-/

namespace Mediation.Text.Utf8

/-- Why octets are no text. -/
inductive Cause where
  | badStart
  | badContinuation
  | unexpectedEnd
  deriving DecidableEq

def Cause.message : Cause → String
  | .badStart => "invalid start byte"
  | .badContinuation => "invalid continuation byte"
  | .unexpectedEnd => "unexpected end of data"

/-- A refusal: the position of the character that could not be completed, its first octet, and how many of
its octets were read. -/
structure Fault where
  cause : Cause
  position : Nat
  first : Nat
  count : Nat
  deriving DecidableEq

def Fault.message (f : Fault) : String :=
  let place :=
    if f.count = 1 then "byte 0x" ++ String.ofList (hex 2 f.first) ++ " in position " ++ toString f.position
    else "bytes in position " ++ toString f.position ++ "-" ++ toString (f.position + f.count - 1)
  "'utf-8' codec can't decode " ++ place ++ ": " ++ f.cause.message

/-- A character of which the first octets have been read. -/
structure Unfinished where
  first : Nat
  /-- The bits that have been read. -/
  bits : Nat
  /-- How many octets have been read. -/
  taken : Nat
  /-- How many octets follow the next one. -/
  owed : Nat
  /-- The least value of the next octet. -/
  low : Nat
  /-- The greatest value of the next octet. -/
  high : Nat
  deriving DecidableEq

/-- Where the machine stands: between two characters, or inside one. -/
inductive State where
  | between
  | inside (u : Unfinished)
  deriving DecidableEq

/-- What the first octet of a longer character asks for. Forms that are longer than needed, surrogates and
values beyond the last code point are excluded by the range of the second octet. -/
def lead? (b : Nat) : Option Unfinished :=
  if 0xc2 ≤ b && b ≤ 0xdf then some ⟨b, b % 0x20, 1, 0, 0x80, 0xbf⟩
  else if b = 0xe0 then some ⟨b, b % 0x10, 1, 1, 0xa0, 0xbf⟩
  else if b = 0xed then some ⟨b, b % 0x10, 1, 1, 0x80, 0x9f⟩
  else if 0xe1 ≤ b && b ≤ 0xef then some ⟨b, b % 0x10, 1, 1, 0x80, 0xbf⟩
  else if b = 0xf0 then some ⟨b, b % 0x08, 1, 2, 0x90, 0xbf⟩
  else if 0xf1 ≤ b && b ≤ 0xf3 then some ⟨b, b % 0x08, 1, 2, 0x80, 0xbf⟩
  else if b = 0xf4 then some ⟨b, b % 0x08, 1, 2, 0x80, 0x8f⟩
  else none

/-- Takes an octet that stands at `position`; a character that it completes is returned. -/
def step (position b : Nat) : State → Except Fault (State × Option Char)
  | .between =>
    if b < 0x80 then .ok (.between, some (Char.ofNat b))
    else
      match lead? b with
      | some u => .ok (.inside u, none)
      | none => .error ⟨.badStart, position, b, 1⟩
  | .inside u =>
    if u.low ≤ b && b ≤ u.high then
      let bits := u.bits * 0x40 + b % 0x40
      match u.owed with
      | 0 => .ok (.between, some (Char.ofNat bits))
      | owed + 1 => .ok (.inside ⟨u.first, bits, u.taken + 1, owed, 0x80, 0xbf⟩, none)
    else .error ⟨.badContinuation, position - u.taken, u.first, u.taken⟩

/-- Decodes the octets from `position` on. -/
def decodeFrom (position : Nat) : State → List UInt8 → Except Fault (List Char)
  | .between, [] => .ok []
  | .inside u, [] => .error ⟨.unexpectedEnd, position - u.taken, u.first, u.taken⟩
  | state, b :: bs => do
    let (next, c) ← step position b.toNat state
    return c.toList ++ (← decodeFrom (position + 1) next bs)

def decode (octets : List UInt8) : Except Fault (List Char) := decodeFrom 0 .between octets

end Mediation.Text.Utf8
