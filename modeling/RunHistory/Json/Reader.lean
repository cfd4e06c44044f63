import RunHistory.Json.Fault
import RunHistory.Value

/-!
# Reading JSON text

A text is read from the front; what is left of it is a list of characters, and a fault keeps the
text that was left at its place.  Beyond the standard, the words `NaN`, `Infinity` and `-Infinity`
are numbers.  A number with a fraction or an exponent is a double-precision one, any other an
integer, of at most `maxDigits` digits.  When a field's name comes twice in an object the first
place and the last value count.  Lists and objects may be nested in so many levels as the one who
reads has room for.

An escape may name half of a pair of 16-bit units without the other half.  The text that it writes
has no characters, so the value is not described, but such an escape is no fault.

## Main definitions

* `Json.readValue`: the value at the front of a text, with the text after it.
* `Json.readWhole`, `Json.readWithin`: the value of a whole text that is nested in at most so many
  levels, with and without halves of pairs let through.
* `Json.read`: the value of a whole text, however deep it is nested.
* `Json.tooDeep?`: whether a text is nested too deep to be read.
-/

namespace RunHistory.Json

/-- The most digits that an integer may have. -/
def maxDigits : Nat := 4300

/-- Why reading stopped. -/
inductive Stop where
  /-- Something is wrong with the text from `rest` on. -/
  | fault (problem : Problem) (rest : List Char)
  /-- An integer of too many digits. -/
  | tooManyDigits (count : Nat)
  /-- Half of a pair of units without the other half. -/
  | halfPair
  /-- A list or an object inside as many others as there are levels. -/
  | tooDeep (isList : Bool)
  deriving DecidableEq, Repr

/-- What was read, with the text after it. -/
abbrev Read (α : Type) := Except Stop (α × List Char)

/-- White space of JSON: blank, tab, line feed and carriage return. -/
def isSpace (c : Char) : Bool := c == ' ' || c == '\t' || c == '\n' || c == '\r'

/-- A text without the white space at its front. -/
def skipSpace (cs : List Char) : List Char := cs.dropWhile isSpace

/-! ### Texts -/

/-- The value of a hexadecimal digit. -/
def hexValue? (c : Char) : Option Nat :=
  if '0' ≤ c ∧ c ≤ '9' then some (c.toNat - '0'.toNat)
  else if 'a' ≤ c ∧ c ≤ 'f' then some (c.toNat - 'a'.toNat + 10)
  else if 'A' ≤ c ∧ c ≤ 'F' then some (c.toNat - 'A'.toNat + 10)
  else none

/-- The number that four hexadecimal digits write. -/
def hexUnit? (a b c d : Char) : Option Nat := do
  let a ← hexValue? a
  let b ← hexValue? b
  let c ← hexValue? c
  let d ← hexValue? d
  return ((a * 16 + b) * 16 + c) * 16 + d

/-- The character of one 16-bit unit, with the text after it.  A unit that is half of a pair has no
character by itself; with `halves` it is let through, as U+FFFD. -/
def unitChar (halves : Bool) (n : Nat) (rest : List Char) : Read Char :=
  if 0xD800 ≤ n ∧ n < 0xE000 then
    if halves then .ok ('\uFFFD', rest) else .error .halfPair
  else .ok (Char.ofNat n, rest)

/-- The character of a pair of 16-bit units. -/
def pairChar (high low : Nat) : Char :=
  Char.ofNat (0x10000 + (high - 0xD800) * 0x400 + (low - 0xDC00))

/-- The character that a letter after a backslash stands for. -/
def simpleEscape? : Char → Option Char
  | '"' => some '"'
  | '\\' => some '\\'
  | '/' => some '/'
  | 'b' => some '\x08'
  | 'f' => some '\x0c'
  | 'n' => some '\n'
  | 'r' => some '\r'
  | 't' => some '\t'
  | _ => none

/-- The second unit of a pair whose first unit was just read, with the text after it: the escape
must follow at once, and not at the very end of the text. -/
def lowUnit (rest : List Char) : Except Stop (Option (Nat × List Char)) :=
  match rest with
  | '\\' :: 'u' :: a :: b :: c :: d :: next :: more =>
    match hexUnit? a b c d with
    | none => .error (.fault .hexEscape (rest.drop 1))
    | some n => .ok (if 0xDC00 ≤ n ∧ n < 0xE000 then some (n, next :: more) else none)
  | _ => .ok none

/-- The character of a unit that was just read, joined with the second unit if it is the first of a
pair, and the text after it. -/
def escapedUnit (halves : Bool) (n : Nat) (rest : List Char) : Read Char :=
  if 0xD800 ≤ n ∧ n < 0xDC00 then
    match lowUnit rest with
    | .error e => .error e
    | .ok none => unitChar halves n rest
    | .ok (some (low, after)) => .ok (pairChar n low, after)
  else unitChar halves n rest

/-- The escape after a backslash: its character and the text after it.  `start` is the text from the
opening quote on, `here` from the backslash on. -/
def escape (halves : Bool) (start here : List Char) : List Char → Read Char
  | [] => .error (.fault .openText start)
  | 'u' :: a :: b :: c :: d :: next :: more =>
    match hexUnit? a b c d with
    | none => .error (.fault .hexEscape ('u' :: a :: b :: c :: d :: next :: more))
    | some n => escapedUnit halves n (next :: more)
  | 'u' :: rest => .error (.fault .hexEscape ('u' :: rest))
  | c :: rest =>
    match simpleEscape? c with
    | none => .error (.fault .escape here)
    | some x => .ok (x, rest)

/-- The characters up to the closing quote, after those read so far, which are kept backwards.  The
fuel bounds their number. -/
def readText (halves : Bool) (start : List Char) : Nat → List Char → List Char → Read String
  | 0, _, _ => .error (.fault .openText start)
  | _, _, [] => .error (.fault .openText start)
  | fuel + 1, acc, c :: rest =>
    if c = '"' then .ok (String.ofList acc.reverse, rest)
    else if c = '\\' then
      match escape halves start (c :: rest) rest with
      | .error e => .error e
      | .ok (x, after) => readText halves start fuel (x :: acc) after
    else if c.toNat < 0x20 then .error (.fault .control (c :: rest))
    else readText halves start fuel (c :: acc) rest

/-! ### Numbers -/

/-- An ASCII digit. -/
def isFigure (c : Char) : Bool := '0' ≤ c && c ≤ '9'

/-- The digits of a whole part at the front of a text: a single zero, or digits that begin with
none. -/
def wholeDigits : List Char → Option (List Char × List Char)
  | '0' :: rest => some (['0'], rest)
  | cs =>
    match cs.takeWhile isFigure with
    | [] => none
    | ds => some (ds, cs.dropWhile isFigure)

/-- The digits of a fraction at the front of a text, with the text after it. -/
def fractionDigits : List Char → Option (List Char × List Char)
  | '.' :: rest =>
    match rest.takeWhile isFigure with
    | [] => none
    | ds => some (ds, rest.dropWhile isFigure)
  | _ => none

/-- The sign at the front of an exponent, with the text after it. -/
def exponentSign : List Char → Bool × List Char
  | '-' :: rest => (true, rest)
  | '+' :: rest => (false, rest)
  | rest => (false, rest)

/-- The number that ASCII digits write. -/
def figures (ds : List Char) : Nat := ds.foldl (fun n c => 10 * n + (c.toNat - '0'.toNat)) 0

/-- An exponent at the front of a text, with the text after it. -/
def exponent : List Char → Option (Int × List Char)
  | c :: rest =>
    if c = 'e' ∨ c = 'E' then
      let (negative, more) := exponentSign rest
      match more.takeWhile isFigure with
      | [] => none
      | ds => some (if negative then -(figures ds : Int) else figures ds, more.dropWhile isFigure)
    else none
  | [] => none

/-- The number after its sign: integers are exact, and a fraction or an exponent makes it a
double-precision one. -/
def readNumber (here : List Char) (negative : Bool) (cs : List Char) : Read Value :=
  match wholeDigits cs with
  | none => .error (.fault .value here)
  | some (whole, rest) =>
    match fractionDigits rest, exponent ((fractionDigits rest).elim rest Prod.snd) with
    | none, none =>
      if whole.length > maxDigits then .error (.tooManyDigits whole.length)
      else .ok (.int (if negative then -(figures whole : Int) else figures whole), rest)
    | fraction, power =>
      let digits := whole ++ fraction.elim [] Prod.fst
      let afterFraction := fraction.elim rest Prod.snd
      let e := power.elim 0 Prod.fst - (fraction.elim 0 fun f => (f.1.length : Int))
      .ok (.real (Binary64.ofDecimal negative (figures digits) digits.length e),
        power.elim afterFraction Prod.snd)

/-- A word at the front of a text, with the text after it. -/
def afterWord? (word cs : List Char) : Option (List Char) :=
  if word.isPrefixOf cs then some (cs.drop word.length) else none

/-- A value that is neither a text nor a list nor an object. -/
def readPlain (cs : List Char) : Read Value :=
  match afterWord? ['n', 'u', 'l', 'l'] cs with
  | some rest => .ok (.null, rest)
  | none =>
  match afterWord? ['t', 'r', 'u', 'e'] cs with
  | some rest => .ok (.bool true, rest)
  | none =>
  match afterWord? ['f', 'a', 'l', 's', 'e'] cs with
  | some rest => .ok (.bool false, rest)
  | none =>
  match afterWord? ['N', 'a', 'N'] cs with
  | some rest => .ok (.real .nan, rest)
  | none =>
  match afterWord? "Infinity".toList cs with
  | some rest => .ok (.real (.infinite false), rest)
  | none =>
  match afterWord? "-Infinity".toList cs with
  | some rest => .ok (.real (.infinite true), rest)
  | none =>
    match cs with
    | '-' :: rest => readNumber cs true rest
    | _ => readNumber cs false cs

/-! ### Lists and objects -/

mutual

/-- The value at the front of a text, with the text after it.  `limit` bounds the characters of each
text in it, `room` the levels of lists and objects, and the fuel the steps. -/
def readValue (halves : Bool) (limit room : Nat) : Nat → List Char → Read Value
  | 0, cs => .error (.fault .value cs)
  | fuel + 1, cs =>
    match cs with
    | '"' :: rest =>
      match readText halves cs limit [] rest with
      | .error e => .error e
      | .ok (s, after) => .ok (.str s, after)
    | '[' :: rest =>
      if room = 0 then .error (.tooDeep true)
      else
        match skipSpace rest with
        | ']' :: after => .ok (.list [], after)
        | more => readItems halves limit (room - 1) fuel [] more
    | '\x7b' :: rest =>
      if room = 0 then .error (.tooDeep false)
      else
        match skipSpace rest with
        | '\x7d' :: after => .ok (.object [], after)
        | more => readFields halves limit (room - 1) fuel [] more
    | _ => readPlain cs

/-- The items of a list up to its closing bracket, after those read so far, which are kept
backwards. -/
def readItems (halves : Bool) (limit room : Nat) : Nat → List Value → List Char → Read Value
  | 0, _, cs => .error (.fault .value cs)
  | fuel + 1, acc, cs =>
    match readValue halves limit room fuel cs with
    | .error e => .error e
    | .ok (v, rest) =>
      match skipSpace rest with
      | ']' :: after => .ok (.list (v :: acc).reverse, after)
      | ',' :: more => readItems halves limit room fuel (v :: acc) (skipSpace more)
      | more => .error (.fault .comma more)

/-- The fields of an object up to its closing brace, after those read so far. -/
def readFields (halves : Bool) (limit room : Nat) :
    Nat → List (String × Value) → List Char → Read Value
  | 0, _, cs => .error (.fault .value cs)
  | fuel + 1, acc, cs =>
    match cs with
    | '"' :: rest =>
      match readText halves cs limit [] rest with
      | .error e => .error e
      | .ok (name, afterName) =>
        match skipSpace afterName with
        | ':' :: beforeValue =>
          match readValue halves limit room fuel (skipSpace beforeValue) with
          | .error e => .error e
          | .ok (v, afterValue) =>
            match skipSpace afterValue with
            | '\x7d' :: after => .ok (.object (setEntry name v acc), after)
            | ',' :: more =>
              readFields halves limit room fuel (setEntry name v acc) (skipSpace more)
            | more => .error (.fault .comma more)
        | more => .error (.fault .colon more)
    | _ => .error (.fault .fieldName cs)

end

/-! ### Whole texts -/

/-- Why a whole text was not read. -/
inductive Trouble where
  /-- The text is not JSON. -/
  | fault (f : Fault)
  /-- An integer of too many digits. -/
  | tooManyDigits (count : Nat)
  /-- Half of a pair of units without the other half. -/
  | halfPair
  /-- A list or an object inside as many others as there are levels. -/
  | tooDeep (isList : Bool)
  deriving DecidableEq, Repr

/-- The place at which reading a whole text stopped. -/
def Stop.within (text : List Char) : Stop → Trouble
  | .fault problem rest => .fault ⟨problem, text.take (text.length - rest.length)⟩
  | .tooManyDigits count => .tooManyDigits count
  | .halfPair => .halfPair
  | .tooDeep isList => .tooDeep isList

/-- The fuel that a text needs: two steps for each character and two more. -/
def fuelFor (text : List Char) : Nat := 2 * text.length + 2

/-- The value that a whole text writes, with white space around it, nested in at most so many
levels. -/
def readWhole (halves : Bool) (levels : Nat) (text : List Char) : Except Trouble Value :=
  match text with
  | '\uFEFF' :: _ => .error (.fault ⟨.byteOrderMark, []⟩)
  | _ =>
    match readValue halves text.length levels (fuelFor text) (skipSpace text) with
    | .error e => .error (e.within text)
    | .ok (v, rest) =>
      match skipSpace rest with
      | [] => .ok v
      | more => .error (Stop.within text (.fault .extra more))

/-- The value that a whole text writes, nested in at most so many levels.  Whatever else is wrong
with the text comes before halves of pairs. -/
def readWithin (levels : Nat) (text : List Char) : Except Trouble Value :=
  match readWhole true levels text with
  | .error e => .error e
  | .ok _ => readWhole false levels text

/-- The value that a whole text writes.  No text is nested in more levels than it has characters. -/
def read (text : List Char) : Except Trouble Value := readWithin text.length text

/-- Whether reading a text ends at a list or an object that is nested too deep, and at which of
them. -/
def tooDeep? (levels : Nat) (text : List Char) : Option Bool :=
  match readWithin levels text with
  | .error (.tooDeep isList) => some isList
  | _ => none

end RunHistory.Json
