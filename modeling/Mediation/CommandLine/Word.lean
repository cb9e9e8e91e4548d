import Mediation.CommandLine.Flag
import Mediation.Text.Digit

/-!
# Words of a command line

A word that begins with a dash is meant as an option, unless it is a number or holds a blank. Long options may
be cut short as long as they stay unique, and take a value after an equals sign. The divider `--` makes every
word after it plain.
-/

namespace Mediation.CommandLine

/-- What a word that is meant as an option stands for. -/
inductive Occurrence where
  /-- A known option: whether it is spelled with a single dash, and the text attached to it. -/
  | known (flag : Flag) (short : Bool) (attached : Option String)
  | unknown (text : String)
  deriving DecidableEq

/-- A word: plain text, such as the divider, or an option. -/
inductive Word where
  | plain (text : String)
  | option (o : Occurrence)
  deriving DecidableEq

/-- A word that may mean several options. -/
structure Ambiguity where
  word : String
  spellings : List String
  deriving DecidableEq

def divider : String := "--"

/-- Whether a spelling has a single dash. -/
def isShort (s : String) : Bool := !Text.startsWith s "--"

/-- The text before the first equals sign, and the text after it. -/
def cutAtEquals (s : String) : String × Option String :=
  let name := s.toList.takeWhile (· ≠ '=')
  match s.toList.drop name.length with
  | [] => (s, none)
  | _ :: attached => (String.ofList name, some (String.ofList attached))

/-- The spellings that a word may be short for, with what it attaches to them. -/
def candidates (s : String) : List (String × Occurrence) :=
  if isShort s then
    (Flag.table.filter fun e => e.1.toList = s.toList.take 2).map fun e =>
      (e.1, .known e.2 true (some (Text.dropFirst s 2)))
  else
    let (name, attached) := cutAtEquals s
    (Flag.table.filter fun e => Text.startsWith e.1 name).map fun e => (e.1, .known e.2 false attached)

/-- The digits of a negative number: whole, or with a point before the last ones. -/
def isUnsignedNumber (cs : List Char) : Bool :=
  let isRow (digits : List Char) : Bool := !digits.isEmpty && digits.all Text.isDigit
  isRow cs || match cs.dropWhile Text.isDigit with
    | '.' :: fraction => isRow fraction
    | _ => false

/-- Whether a word is a negative number. A line feed may end it. -/
def isNegativeNumber : List Char → Bool
  | '-' :: cs => isUnsignedNumber cs || (cs.getLast? = some '\n' && isUnsignedNumber cs.dropLast)
  | _ => false

/-- The option that a word names in full, perhaps with a value attached. -/
def inFull? (s : String) : Option Occurrence :=
  match Flag.ofSpelling? s with
  | some flag => some (.known flag (isShort s) none)
  | none =>
    match cutAtEquals s with
    | (_, none) => none
    | (name, attached) => (Flag.ofSpelling? name).map fun flag => .known flag (isShort name) attached

/-- The meaning of a word before the divider. -/
def Word.ofString (s : String) : Except Ambiguity Word :=
  if !Text.startsWith s "-" || s = "-" then .ok (.plain s)
  else
    match inFull? s with
    | some o => .ok (.option o)
    | none =>
      match candidates s with
      | [] => .ok (if isNegativeNumber s.toList || ' ' ∈ s.toList then .plain s else .option (.unknown s))
      | [(_, o)] => .ok (.option o)
      | several => .error ⟨s, several.map Prod.fst⟩

/-- The meanings of the words of a command line. -/
def words : List String → Except Ambiguity (List Word)
  | [] => .ok []
  | s :: rest =>
    if s = divider then .ok (.plain s :: rest.map .plain)
    else return (← Word.ofString s) :: (← words rest)

end Mediation.CommandLine
