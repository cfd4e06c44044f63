/-!
# Faults in JSON text

A fault names what is wrong and the place from which on it is wrong, counted in characters from the
start of the text.

## Main definitions

* `Json.Problem`: what is wrong.
* `Json.Fault`: a problem at a place of a text.
* `Json.Fault.message`: its wording, with the line and the column.
-/

namespace RunHistory.Json

/-- What is wrong with a JSON text. -/
inductive Problem where
  /-- A value should stand here. -/
  | value
  /-- A field's name in quotes should stand here. -/
  | fieldName
  /-- A colon should stand here. -/
  | colon
  /-- A comma or the closing bracket should stand here. -/
  | comma
  /-- The text that starts here has no closing quote. -/
  | openText
  /-- A control character stands in a text as it is. -/
  | control
  /-- A backslash that begins no escape. -/
  | escape
  /-- An escape without its four hexadecimal digits. -/
  | hexEscape
  /-- The value is over, and the text is not. -/
  | extra
  /-- The text begins with a byte order mark. -/
  | byteOrderMark
  deriving DecidableEq, Repr

/-- The wording of a problem. -/
def Problem.message : Problem → String
  | .value => "Expecting value"
  | .fieldName => "Expecting property name enclosed in double quotes"
  | .colon => "Expecting ':' delimiter"
  | .comma => "Expecting ',' delimiter"
  | .openText => "Unterminated string starting at"
  | .control => "Invalid control character at"
  | .escape => "Invalid \\escape"
  | .hexEscape => "Invalid \\uXXXX escape"
  | .extra => "Extra data"
  | .byteOrderMark => "Unexpected UTF-8 BOM (decode using utf-8-sig)"

/-- A problem at a place of a text. -/
structure Fault where
  /-- What is wrong. -/
  problem : Problem
  /-- The characters before the place. -/
  before : List Char
  deriving DecidableEq, Repr

namespace Fault

/-- The line of the place, counted from 1. -/
def line (f : Fault) : Nat := f.before.count '\n' + 1

/-- The place in its line, counted from 1. -/
def column (f : Fault) : Nat := (f.before.reverse.takeWhile (· != '\n')).length + 1

/-- The wording of a fault. -/
def message (f : Fault) : String :=
  f.problem.message ++ ": line " ++ toString f.line ++ " column " ++ toString f.column ++ " (char "
    ++ toString f.before.length ++ ")"

end Fault

end RunHistory.Json
