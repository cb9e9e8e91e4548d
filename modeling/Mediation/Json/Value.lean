import Mediation.Number.Decimal
import Mediation.Table
import Mediation.Text.Affix
import Mediation.Text.Quoted

/-!
# JSON values

The values of a JSON text. Whole numbers are unbounded and apart from floating-point ones, and an object
keeps its fields in the order in which they were first written.
-/

namespace Mediation

inductive Json where
  | null
  | bool (value : Bool)
  | int (value : Int)
  | float (value : Binary64)
  | str (value : String)
  | arr (items : List Json)
  | obj (fields : List (String × Json))
  deriving Inhabited

namespace Json

def field? (key : String) (fields : List (String × Json)) : Option Json := Table.lookup key fields

/-- The fields after `key` has got a value: the last value counts, at the place of the first. -/
def putField (key : String) (value : Json) (fields : List (String × Json)) : List (String × Json) :=
  Table.alterEntries key (fun _ => value) fields

def kindName : Json → String
  | .null => "NoneType"
  | .bool _ => "bool"
  | .int _ => "int"
  | .float _ => "float"
  | .str _ => "str"
  | .arr _ => "list"
  | .obj _ => "dict"

mutual

/-- The text of a value that stands inside another one: text is quoted. -/
def inner : Json → String
  | .null => "None"
  | .bool true => "True"
  | .bool false => "False"
  | .int value => toString value
  | .float value => value.display
  | .str value => Text.quoted value
  | .arr items => "[" ++ Text.join ", " (innerItems items) ++ "]"
  | .obj fields => "\x7b" ++ Text.join ", " (innerFields fields) ++ "\x7d"

/-- The texts of the items of an array. -/
def innerItems : List Json → List String
  | [] => []
  | item :: rest => item.inner :: innerItems rest

/-- The texts of the fields of an object. -/
def innerFields : List (String × Json) → List String
  | [] => []
  | (key, value) :: rest => (Text.quoted key ++ ": " ++ value.inner) :: innerFields rest

end

/-- The text of a value: text stands for itself. -/
def display : Json → String
  | .str value => value
  | value => value.inner

/-- Whether a value counts as true: all do but null, false, zero and what is empty. -/
def truthy : Json → Bool
  | .null => false
  | .bool value => value
  | .int value => value ≠ 0
  | .float value => !value.isZero
  | .str value => value ≠ ""
  | .arr items => !items.isEmpty
  | .obj fields => !fields.isEmpty

end Json

end Mediation
