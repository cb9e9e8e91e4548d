import Mediation.Json.Value

/-!
# Writing JSON

One line of printable ASCII characters for every value: a comma and a colon are followed by one blank, and
every character outside the printable ASCII range is escaped.
-/

namespace Mediation.Json

/-- The escape of one 16-bit unit. -/
def escapeUnit (unit : Nat) : List Char := '\\' :: 'u' :: Text.hex 4 unit

/-- How a character stands in a JSON string; beyond 16 bits it is written as a surrogate pair. -/
def escapeChar (c : Char) : List Char :=
  if c = '"' || c = '\\' then ['\\', c]
  else if c = '\n' then ['\\', 'n']
  else if c = '\r' then ['\\', 'r']
  else if c = '\t' then ['\\', 't']
  else if c = '\x08' then ['\\', 'b']
  else if c = '\x0c' then ['\\', 'f']
  else if 0x20 ≤ c.toNat && c.toNat ≤ 0x7e then [c]
  else if c.toNat < 0x10000 then escapeUnit c.toNat
  else
    let offset := c.toNat - 0x10000
    escapeUnit (0xd800 + offset / 0x400) ++ escapeUnit (0xdc00 + offset % 0x400)

def writeString (s : String) : List Char := '"' :: s.toList.flatMap escapeChar ++ ['"']

/-- A floating-point number, with the customary words for what is not finite. -/
def writeFloat : Binary64 → List Char
  | .nan => "NaN".toList
  | .infinity false => "Infinity".toList
  | .infinity true => "-Infinity".toList
  | x => x.display.toList

mutual

def writeChars : Json → List Char
  | .null => "null".toList
  | .bool true => "true".toList
  | .bool false => "false".toList
  | .int value => (toString value).toList
  | .float value => writeFloat value
  | .str value => writeString value
  | .arr [] => ['[', ']']
  | .arr (item :: rest) => '[' :: writeChars item ++ writeItems rest
  | .obj [] => ['\x7b', '\x7d']
  | .obj ((key, value) :: rest) =>
    '\x7b' :: writeString key ++ ':' :: ' ' :: writeChars value ++ writeFields rest

/-- The items of an array after the first one, and its end. -/
def writeItems : List Json → List Char
  | [] => [']']
  | item :: rest => ',' :: ' ' :: writeChars item ++ writeItems rest

/-- The fields of an object after the first one, and its end. -/
def writeFields : List (String × Json) → List Char
  | [] => ['\x7d']
  | (key, value) :: rest => ',' :: ' ' :: writeString key ++ ':' :: ' ' :: writeChars value ++ writeFields rest

end

def write (value : Json) : String := String.ofList value.writeChars

end Mediation.Json
