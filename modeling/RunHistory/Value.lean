import RunHistory.Number.Shortest
import RunHistory.Table
import RunHistory.Text.Quoted

/-!
# Values

What a record of a history can hold: null, truth values, integers of any size, double-precision
numbers, text, lists, and objects with their fields in order.

## Main definitions

* `Value`: a value.
* `Value.text`: a value as text, where text stands for itself.
* `Value.shown`: a value as it is shown inside messages and inside other values, where text is
  quoted.
* `Value.typeName`: the name of a value's type.
* `Value.object?`: the table of an object's fields.
-/

namespace RunHistory

/-- A value of a record.  The fields of an object that was read have distinct keys. -/
inductive Value where
  /-- No value. -/
  | null
  /-- A truth value. -/
  | bool (b : Bool)
  /-- An integer. -/
  | int (n : Int)
  /-- A number with a fraction or an exponent. -/
  | real (x : Binary64)
  /-- Text. -/
  | str (s : String)
  /-- A list. -/
  | list (items : List Value)
  /-- An object: its fields in order. -/
  | object (fields : List (String × Value))
  deriving Inhabited

namespace Value

/-- Numbers are shown positionally from `0.0001` up to sixteen places before the point, with at
least one place after it; an exponent has a sign and at least two digits. -/
def realLayout : Layout where
  positionalAbove := -4
  positionalUpTo := 16
  exponentWidth := 2
  nan := ['n', 'a', 'n']
  infinite := ['i', 'n', 'f']

/-- Texts with a comma and a blank between them. -/
def commaSeparated : List String → String
  | [] => ""
  | [s] => s
  | s :: rest => s ++ ", " ++ commaSeparated rest

mutual

/-- How a value is shown: text in quotes, lists in brackets, objects in braces. -/
def shown : Value → String
  | .null => "None"
  | .bool b => if b then "True" else "False"
  | .int n => toString n
  | .real x => String.ofList (realLayout.write x)
  | .str s => quoted s
  | .list items => "[" ++ commaSeparated (shownItems items) ++ "]"
  | .object fields => "\x7b" ++ commaSeparated (shownFields fields) ++ "\x7d"

/-- The items of a list, each as it is shown. -/
def shownItems : List Value → List String
  | [] => []
  | v :: rest => v.shown :: shownItems rest

/-- The fields of an object, each as it is shown. -/
def shownFields : List (String × Value) → List String
  | [] => []
  | (key, v) :: rest => (quoted key ++ ": " ++ v.shown) :: shownFields rest

end

/-- A value as text: text stands for itself, and any other value is shown. -/
def text : Value → String
  | .str s => s
  | v => v.shown

/-- A value as text, unless it is null. -/
def text? : Value → Option String
  | .null => none
  | v => some v.text

/-- The name of a value's type. -/
def typeName : Value → String
  | .null => "NoneType"
  | .bool _ => "bool"
  | .int _ => "int"
  | .real _ => "float"
  | .str _ => "str"
  | .list _ => "list"
  | .object _ => "dict"

/-- The table of an object's fields. -/
def object? : Value → Option (Table Value)
  | .object fields => some (Table.ofList fields)
  | _ => none

end Value

end RunHistory
