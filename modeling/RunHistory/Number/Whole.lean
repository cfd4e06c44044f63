import RunHistory.Failure
import RunHistory.Text.Blank
import RunHistory.Text.Digit

/-!
# Whole numbers

A whole number may be logged as an integer, as a number with a fraction, or as text: decimal digits
of any script with single underscores between them, a sign in front, and blanks around.  A value
that means no whole number is passed over, an infinite number is refused.

## Main definitions

* `Whole.ofText?`: the whole number that a text writes.
* `Value.whole?`: the whole number that a value means.
-/

namespace RunHistory

namespace Whole

/-- A blank as it counts around a number in plain text. -/
def isSpace (c : Char) : Bool := c == ' ' || ('\t' ≤ c && c ≤ '\r')

/-- A character in plain text: beyond ASCII every blank is a space. -/
def plain (c : Char) : Char := if c.toNat ≥ 128 ∧ isBlank c then ' ' else c

/-- A text without the spaces at its two ends. -/
def strip (cs : List Char) : List Char :=
  ((cs.dropWhile isSpace).reverse.dropWhile isSpace).reverse

/-- The digits of a number with single underscores between them. -/
def digits? : List Char → Option (List Char)
  | [] => none
  | [c] => if isDigit c then some [c] else none
  | c :: '_' :: rest => if isDigit c then (digits? rest).map (c :: ·) else none
  | c :: rest => if isDigit c then (digits? rest).map (c :: ·) else none

/-- The sign of a number, and its text after the sign. -/
def signed : List Char → Bool × List Char
  | '-' :: rest => (true, rest)
  | '+' :: rest => (false, rest)
  | cs => (false, cs)

/-- The whole number that a text writes; one of more than `Id.maxDigits` digits is not read. -/
def ofText? (text : String) : Option Int :=
  let (negative, body) := signed (strip (text.toList.map plain))
  match digits? body with
  | none => none
  | some ds =>
    if ds.length > Id.maxDigits then none
    else some (if negative then -(digitsValue ds : Int) else digitsValue ds)

end Whole

/-- The whole number that a value means: an integer itself, the whole part of a number, the number
that a text writes. -/
def Value.whole? : Value → Except Failure (Option Int)
  | .int n => .ok (some n)
  | .real (.infinite _) => .error .infiniteNumber
  | .real x => .ok x.truncate?
  | .str s => .ok (Whole.ofText? s)
  | .null | .bool _ | .list _ | .object _ => .ok none

end RunHistory
