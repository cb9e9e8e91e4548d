import Mediation.Text.Blank
import Mediation.Text.Case

/-!
# Lines of a settings file

What a line says on its own: a comment, the header of a section, or a key with a value. Whether it rather
continues the value above it depends on the lines before it.
-/

namespace Mediation.Setting

/-- A line without the blanks around it. -/
inductive Content where
  | blank
  | comment
  | text (chars : List Char)
  deriving DecidableEq

/-- The content of a line. Comments take up a line of their own. -/
def Content.ofLine (line : List Char) : Content :=
  match Text.strip line with
  | [] => .blank
  | c :: cs => if c = '#' || c = ';' then .comment else .text (c :: cs)

/-- The number of blanks before the content of a line. -/
def indentation (line : List Char) : Nat := (line.takeWhile Text.isBlank).length

/-- What the content of a line says when it does not continue a value. -/
inductive Statement where
  | header (name : String)
  | item (key value : String)
  | unreadable
  deriving DecidableEq

/-- The name in a section header: all between the opening bracket and the last closing one. What follows is
left aside, and the name is not empty. -/
def headerName? : List Char → Option String
  | '[' :: cs =>
    match cs.reverse.dropWhile (· ≠ ']') with
    | _ :: c :: name => some (String.ofList (c :: name).reverse)
    | _ => none
  | _ => none

/-- Whether `c` divides a key from its value. -/
def isDelimiter (c : Char) : Bool := c = '=' || c = ':'

/-- The key and the value around the first delimiter. Keys are in lower case. -/
def keyValue? (cs : List Char) : Option (String × String) :=
  match cs.dropWhile fun c => !isDelimiter c with
  | [] => none
  | _ :: value =>
    let key := cs.takeWhile fun c => !isDelimiter c
    some (Text.lower (String.ofList (Text.stripRight key)), String.ofList (Text.strip value))

def Statement.ofContent (cs : List Char) : Statement :=
  match headerName? cs with
  | some name => .header name
  | none =>
    match keyValue? cs with
    | some (key, value) => .item key value
    | none => .unreadable

end Mediation.Setting
